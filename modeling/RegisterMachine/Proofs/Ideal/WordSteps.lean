import RegisterMachine.Engine.Run
import RegisterMachine.Proofs.Ideal.Machine
import RegisterMachine.Proofs.Engine.Indirection

/-!
# Steps over words

`Machine.ideal` reads a machine as an ideal one.  This module says what a step does on any
machine, whatever its program, tapes, pointers and registers hold: which fault stops it, and what
the instruction table over the integers makes of the machine where none does.

* `Registers.Assigned` and `Machine.Carries`: an effect over the integers carried out on words.
  What goes to a register is taken modulo the words, and nothing else is touched.
* `Machine.apply_carried`: the instruction table over words is the one over the integers, so
  carried out.
* `Machine.Obstacle`: what stands in the way of a step, each with its rank.  An obstacle is there
  whether or not others are, and the one of the lowest rank is the fault (`FirstObstacle`).
* `Machine.step_cases`: a step meets its first obstacle, or performs its command.
* `Machine.step_exact`: both are exact, so that they determine the step.
-/

namespace RegisterMachine

/-! ## Reading machines as ideal machines -/

namespace Registers

/-- The bank over the integers: zero where no address reaches. -/
def ideal (r : Registers) (a : Int) : Int :=
  if 0 ≤ a ∧ a < wordBound then (r.get (UInt64.ofNat a.toNat)).toInt else 0

@[simp] theorem ideal_toNat (r : Registers) (a : Address) :
    r.ideal a.toNat = (r.get a).toInt := by
  have below : a.toNat < wordBound := a.toNat_lt
  rw [ideal, if_pos ⟨Int.natCast_nonneg _, Int.ofNat_lt.2 below⟩, Int.toNat_natCast,
    UInt64.ofNat_toNat]

@[simp] theorem ideal_zero (r : Registers) : r.ideal 0 = r.accumulator.toInt :=
  r.ideal_toNat accumulatorAddress

end Registers

/-- A machine over the integers. -/
def Machine.ideal (m : Machine) : Ram where
  program := m.program
  registers := m.registers.ideal
  input := m.input.map Int64.toInt
  inputPointer := m.inputPointer
  output := m.output.map Int64.toInt
  instructionPointer := m.instructionPointer

@[simp] theorem Machine.ideal_registers (m : Machine) :
    m.ideal.registers = m.registers.ideal := rfl

/-- A fault over the integers.  An ideal machine has no limit to exceed. -/
def Fault.ideal : Fault → Option Ram.Fault
  | .lineNotFound line => some (.lineNotFound line)
  | .inputExhausted line position => some (.inputExhausted line position)
  | .divisionByZero line => some (.divisionByZero line)
  | .illegalOperand line instruction operand => some (.illegalOperand line instruction operand)
  | .negativeAddress line value => some (.negativeAddress line value.toInt)
  | .limitExceeded _ => none

/-! ## Banks with the same cells -/

theorem lookup_head_none {a : Address} {v : Value} {cells : List (Address × Value)}
    (ascending : Ascending ((a, v) :: cells)) : cells.lookup a = none := by
  refine List.lookup_eq_none_iff.mpr fun cell among => ?_
  have above := (List.pairwise_cons.mp ascending).1 cell among
  exact bne_iff_ne.mpr (UInt64.ne_of_lt above)

theorem head_le_of_lookup {a b : Address} {v w : Value} {cells : List (Address × Value)}
    (ascending : Ascending ((a, v) :: cells)) (found : ((a, v) :: cells).lookup b = some w) :
    a ≤ b := by
  rw [lookup_cell] at found
  split at found
  · rename_i same
    exact same ▸ UInt64.le_refl b
  · obtain ⟨before, after, rfl, -⟩ := List.lookup_eq_some_iff.mp found
    exact UInt64.le_of_lt ((List.pairwise_cons.mp ascending).1 (b, w) (by simp))

theorem eq_of_lookup_eq {cells cells' : List (Address × Value)} (ascending : Ascending cells)
    (ascending' : Ascending cells') (same : ∀ a, cells.lookup a = cells'.lookup a) :
    cells = cells' := by
  induction cells generalizing cells' with
  | nil =>
    rcases cells' with _ | ⟨⟨b, w⟩, tail'⟩
    · rfl
    · simpa [lookup_cell] using same b
  | cons head tail ih =>
    obtain ⟨a, v⟩ := head
    rcases cells' with _ | ⟨⟨b, w⟩, tail'⟩
    · simpa [lookup_cell] using same a
    have here : ((a, v) :: tail).lookup a = some v := by rw [lookup_cell, if_pos rfl]
    have there : ((b, w) :: tail').lookup b = some w := by rw [lookup_cell, if_pos rfl]
    -- The least address of either bank is in the other one.
    obtain rfl : a = b := UInt64.le_antisymm
      (head_le_of_lookup ascending ((same b).trans there))
      (head_le_of_lookup ascending' ((same a).symm.trans here))
    obtain rfl : v = w := Option.some.inj (here.symm.trans ((same a).trans there))
    have rest : ∀ c, tail.lookup c = tail'.lookup c := by
      intro c
      by_cases first : c = a
      · rw [first, lookup_head_none ascending, lookup_head_none ascending']
      · have both := same c
        rwa [lookup_cell, lookup_cell, if_neg first, if_neg first] at both
    rw [ih (List.pairwise_cons.mp ascending).2 (List.pairwise_cons.mp ascending').2 rest]

namespace Registers

theorem eq_of_lookup {r r' : Registers} (same : ∀ a, r.cells.lookup a = r'.cells.lookup a) :
    r = r' := by
  obtain ⟨cells, ascending⟩ := r
  obtain ⟨cells', ascending'⟩ := r'
  obtain rfl : cells = cells' := eq_of_lookup_eq ascending ascending' same
  rfl

/-- One register holds the word of an integer, and every other is as it was: with its value, or
never written. -/
structure Assigned (r : Registers) (a : Address) (w : Int) (r' : Registers) : Prop where
  here : ∃ x : Value, r'.cells.lookup a = some x ∧ x.toInt = w.bmod wordBound
  elsewhere : ∀ b, b ≠ a → r'.cells.lookup b = r.cells.lookup b

theorem assigned_set (r : Registers) (a : Address) {x : Value} {w : Int}
    (word : x.toInt = w.bmod wordBound) : r.Assigned a w (r.set a x) := by
  refine ⟨⟨x, ?_, word⟩, fun b other => ?_⟩
  · rw [set, lookup_setCell, if_pos rfl]
  · rw [set, lookup_setCell, if_neg other]

theorem Assigned.unique {r r' r'' : Registers} {a : Address} {w : Int}
    (assigned : r.Assigned a w r') (assigned' : r.Assigned a w r'') : r' = r'' := by
  obtain ⟨⟨x, here, word⟩, elsewhere⟩ := assigned
  obtain ⟨⟨x', here', word'⟩, elsewhere'⟩ := assigned'
  obtain rfl : x = x' := Int64.toInt_inj.mp (word.trans word'.symm)
  refine eq_of_lookup fun b => ?_
  by_cases same : b = a
  · rw [same, here, here']
  · rw [elsewhere b same, elsewhere' b same]

end Registers

namespace Machine

/-! ## Effects carried out on words -/

/-- The machine after an effect over the integers. -/
structure Carries (m : Machine) (e : Ram.Effect) (m' : Machine) : Prop where
  program : m'.program = m.program
  input : m'.input = m.input
  kept : e.write = none → m'.registers = m.registers
  written : ∀ {b w : Int}, e.write = some (b, w) →
    ∃ a : Address, b = a.toNat ∧ m.registers.Assigned a w m'.registers
  output : m'.output.toList.map Int64.toInt = m.output.toList.map Int64.toInt ++ e.output.toList
  inputPointer : m'.inputPointer = if e.reads then m.inputPointer + 1 else m.inputPointer
  instructionPointer : m'.instructionPointer = e.jump.getD (m.instructionPointer + 1)

theorem Carries.unique {m m' m'' : Machine} {e : Ram.Effect} (carries : m.Carries e m')
    (carries' : m.Carries e m'') : m' = m'' := by
  have registers : m'.registers = m''.registers := by
    rcases write : e.write with _ | ⟨b, w⟩
    · exact (carries.kept write).trans (carries'.kept write).symm
    · obtain ⟨a, named, assigned⟩ := carries.written write
      obtain ⟨a', named', assigned'⟩ := carries'.written write
      obtain rfl : a = a' := UInt64.toNat_inj.mp (Int.ofNat_inj.mp (named.symm.trans named'))
      exact assigned.unique assigned'
  have output : m'.output = m''.output := by
    have same := carries.output.trans carries'.output.symm
    exact Array.toList_inj.mp ((List.map_inj_right fun _ _ => Int64.toInt_inj.mp).mp same)
  have program := carries.program.trans carries'.program.symm
  have input := carries.input.trans carries'.input.symm
  have inputPointer := carries.inputPointer.trans carries'.inputPointer.symm
  have pointer := carries.instructionPointer.trans carries'.instructionPointer.symm
  cases m'
  cases m''
  simp_all only

theorem carries_write (m : Machine) (a : Address) {v : Value} {w : Int}
    (word : v.toInt = w.bmod wordBound) :
    m.Carries { write := some (a.toNat, w) }
      { m with registers := m.registers.set a v }.next where
  program := rfl
  input := rfl
  kept none := by cases none
  written same := by
    cases same
    exact ⟨a, rfl, m.registers.assigned_set a word⟩
  output := (List.append_nil _).symm
  inputPointer := rfl
  instructionPointer := rfl

theorem carries_accumulate (m : Machine) {v : Value} {w : Int} (word : v.toInt = w.bmod wordBound) :
    m.Carries { write := some (0, w) } (m.accumulate v) :=
  m.carries_write Registers.accumulatorAddress word

theorem carries_output (m : Machine) (v : Value) :
    m.Carries { output := some v.toInt } { m with output := m.output.push v }.next where
  program := rfl
  input := rfl
  kept _ := rfl
  written some := by cases some
  output := by simp [next, jump]
  inputPointer := rfl
  instructionPointer := rfl

/-- A jump changes nothing but the pointer. -/
theorem carries_jump (m : Machine) {target : Option Nat} {line : Nat}
    (goes : target.getD (m.instructionPointer + 1) = line) :
    m.Carries { jump := target } (m.jump line) where
  program := rfl
  input := rfl
  kept _ := rfl
  written some := by cases some
  output := (List.append_nil _).symm
  inputPointer := rfl
  instructionPointer := goes.symm

theorem carries_branch (m : Machine) {condition : Bool} {P : Prop} [Decidable P]
    (same : condition = true ↔ P) (a : Address) :
    m.Carries { jump := if P then some (a.toNat : Int).toNat else none }
      (m.branch condition a) := by
  by_cases holds : P
  · rw [branch, if_pos (same.mpr holds), if_pos holds]
    exact m.carries_jump rfl
  · rw [branch, if_neg fun taken => holds (same.mp taken), if_neg holds]
    exact m.carries_jump rfl

/-- A result over the integers and the result over words that it stands for. -/
inductive Carried (m : Machine) : Except Ram.Fault Ram.Effect → Except Fault Machine → Prop
  | ok {e : Ram.Effect} {m' : Machine} (carries : m.Carries e m') : Carried m (.ok e) (.ok m')
  | error {e : Ram.Fault} {f : Fault} (same : f.ideal = some e) : Carried m (.error e) (.error f)

/-- The instruction table over words is the one over the integers, modulo the words. -/
theorem apply_carried (m : Machine) (c : Command) (a : Address) (v : Value) :
    m.Carried (m.ideal.effect c a.toNat v.toInt) (m.apply c a v) := by
  have acc : m.ideal.registers 0 = m.registers.accumulator.toInt := by
    rw [ideal_registers, Registers.ideal_zero]
  have word (x : Value) : x.toInt = x.toInt.bmod wordBound := (Int64.toInt_bmod x).symm
  cases instruction : c.instruction with
  | read =>
    have tape : m.ideal.input[m.ideal.inputPointer]? =
        m.input[m.inputPointer]?.map Int64.toInt := List.getElem?_map
    simp only [Ram.effect, apply, instruction, tape]
    rcases m.input[m.inputPointer]? with _ | x
    · exact .error rfl
    · exact .ok { m.carries_write a (word x) with inputPointer := rfl }
  | write =>
    simp only [Ram.effect, apply, instruction, ideal_registers, Registers.ideal_toNat]
    exact .ok (m.carries_output _)
  | load =>
    simp only [Ram.effect, apply, instruction]
    exact .ok (m.carries_accumulate (word v))
  | store =>
    simp only [Ram.effect, apply, instruction, acc]
    exact .ok (m.carries_write a (word _))
  | add =>
    simp only [Ram.effect, apply, instruction, acc]
    exact .ok (m.carries_accumulate (Int64.toInt_add _ _))
  | sub =>
    simp only [Ram.effect, apply, instruction, acc]
    exact .ok (m.carries_accumulate (Int64.toInt_sub _ _))
  | mul =>
    simp only [Ram.effect, apply, instruction, acc]
    exact .ok (m.carries_accumulate (Int64.toInt_mul _ _))
  | div =>
    have zero : v.toInt = 0 ↔ v = 0 := by rw [← Int64.toInt_zero, Int64.toInt_inj]
    simp only [Ram.effect, apply, instruction, acc, zero]
    by_cases none : v = 0
    · rw [if_pos none, if_pos none]
      exact .error rfl
    · rw [if_neg none, if_neg none]
      exact .ok (m.carries_accumulate (Int64.toInt_div _ _))
  | goto =>
    simp only [Ram.effect, apply, instruction]
    exact .ok (m.carries_jump rfl)
  | jz =>
    simp only [Ram.effect, apply, instruction, acc]
    refine .ok (m.carries_branch ?_ a)
    rw [beq_iff_eq, ← Int64.toInt_inj, Int64.toInt_zero]
  | jgtz =>
    simp only [Ram.effect, apply, instruction, acc]
    refine .ok (m.carries_branch ?_ a)
    rw [decide_eq_true_iff, gt_iff_lt, Int64.lt_iff_toInt_lt, Int64.toInt_zero]
  | halt =>
    simp only [Ram.effect, apply, instruction]
    exact .ok (m.carries_jump rfl)

theorem apply_carries {m m' : Machine} {c : Command} {a : Address} {v : Value}
    (applied : m.apply c a v = .ok m') :
    ∃ e, m.ideal.effect c a.toNat v.toInt = .ok e ∧ m.Carries e m' := by
  have carried := m.apply_carried c a v
  rw [applied] at carried
  generalize m.ideal.effect c a.toNat v.toInt = effect at carried
  cases carried with
  | ok carries => exact ⟨_, rfl, carries⟩

end Machine

/-! ## What stands in the way -/

/-- The operand has markers, and the instruction names its register or line outright. -/
def Command.Overmarked (c : Command) : Prop :=
  c.instruction ∈ [.read, .write, .store, .goto] ∧ 1 ≤ c.operand.markers.toNat

theorem Command.overmarked_iff {c : Command} :
    c.Overmarked ↔ (c.operand.isMarked && !c.instruction.allowsMarkers) = true := by
  rw [Overmarked, Bool.and_eq_true, Operand.isMarked_iff, and_comm]
  cases c.instruction <;> simp [Instruction.allowsMarkers]

namespace Machine

/-- What stands in the way of a step, with its rank among the others. -/
inductive Obstacle (m : Machine) : Nat → Fault → Prop
  /-- There is no command at the pointer. -/
  | missing (absent : m.program.get? m.instructionPointer = none) :
    Obstacle m 0 (.lineNotFound m.instructionPointer)
  /-- The operand may not have markers. -/
  | overmarked {c : Command} (fetched : m.program.get? m.instructionPointer = some c)
    (overmarked : c.Overmarked) :
    Obstacle m 1 (.illegalOperand c.line c.instruction c.operand.text)
  /-- The operand is used, and its chain meets a negative value. -/
  | astray {c : Command} {v : Value} (fetched : m.program.get? m.instructionPointer = some c)
    (used : c.instruction ≠ .halt) (strays : c.operand.Strays m.registers v) :
    Obstacle m 2 (.negativeAddress c.line v)
  /-- There is nothing left to read. -/
  | exhausted {c : Command} (fetched : m.program.get? m.instructionPointer = some c)
    (reads : c.instruction = .read) (ended : m.input.length ≤ m.inputPointer) :
    Obstacle m 3 (.inputExhausted c.line m.inputPointer)
  /-- The divisor is zero. -/
  | zero {c : Command} (fetched : m.program.get? m.instructionPointer = some c)
    (divides : c.instruction = .div) (zero : c.operand.Yields m.registers 0) :
    Obstacle m 4 (.divisionByZero c.line)

/-- The fault is that of the obstacle with the lowest rank. -/
def FirstObstacle (m : Machine) (f : Fault) : Prop :=
  ∃ rank, m.Obstacle rank f ∧ ∀ lower, lower < rank → ∀ g, ¬ m.Obstacle lower g

/-- The command is performed: its operand designates a register and has a value, unless it is
not used, and the effect in the instruction table is carried out. -/
def Performs (m : Machine) (c : Command) (m' : Machine) : Prop :=
  ∃ (a : Address) (v : Value) (e : Ram.Effect),
    (c.instruction ≠ .halt → c.operand.Designates m.registers a ∧ c.operand.Yields m.registers v) ∧
    m.ideal.effect c a.toNat v.toInt = .ok e ∧ m.Carries e m'

variable {m m' m'' : Machine} {c : Command}

/-- One rank has one fault. -/
theorem Obstacle.unique {rank : Nat} {f g : Fault} (h : m.Obstacle rank f)
    (h' : m.Obstacle rank g) : f = g := by
  cases h with
  | missing absent =>
    cases h'
    rfl
  | overmarked fetched =>
    cases h' with
    | overmarked fetched' =>
      cases fetched.symm.trans fetched'
      rfl
  | astray fetched _ strays =>
    cases h' with
    | astray fetched' _ strays' =>
      cases fetched.symm.trans fetched'
      rw [strays.unique strays']
  | exhausted fetched =>
    cases h' with
    | exhausted fetched' =>
      cases fetched.symm.trans fetched'
      rfl
  | zero fetched =>
    cases h' with
    | zero fetched' =>
      cases fetched.symm.trans fetched'
      rfl

theorem FirstObstacle.unique {f g : Fault} (h : m.FirstObstacle f) (h' : m.FirstObstacle g) :
    f = g := by
  obtain ⟨rank, obstacle, none⟩ := h
  obtain ⟨rank', obstacle', none'⟩ := h'
  rcases Nat.lt_trichotomy rank rank' with lt | rfl | lt
  · exact absurd obstacle (none' rank lt f)
  · exact obstacle.unique obstacle'
  · exact absurd obstacle' (none rank' lt g)

/-- The obstacles of a command that has been fetched. -/
theorem Obstacle.of_fetched {rank : Nat} {f : Fault} (obstacle : m.Obstacle rank f)
    (fetched : m.program.get? m.instructionPointer = some c) :
    (rank = 1 ∧ c.Overmarked) ∨
    (rank = 2 ∧ c.instruction ≠ .halt ∧ ∃ v, c.operand.Strays m.registers v) ∨
    (rank = 3 ∧ c.instruction = .read ∧ m.input.length ≤ m.inputPointer) ∨
    (rank = 4 ∧ c.instruction = .div ∧ c.operand.Yields m.registers 0) := by
  cases obstacle with
  | missing absent => cases absent.symm.trans fetched
  | overmarked fetched' overmarked =>
    cases fetched'.symm.trans fetched
    exact .inl ⟨rfl, overmarked⟩
  | astray fetched' used strays =>
    cases fetched'.symm.trans fetched
    exact .inr (.inl ⟨rfl, used, _, strays⟩)
  | exhausted fetched' reads ended =>
    cases fetched'.symm.trans fetched
    exact .inr (.inr (.inl ⟨rfl, reads, ended⟩))
  | zero fetched' divides zero =>
    cases fetched'.symm.trans fetched
    exact .inr (.inr (.inr ⟨rfl, divides, zero⟩))

/-- A command is determined by what it finds. -/
theorem Performs.unique (h : m.Performs c m') (h' : m.Performs c m'') : m' = m'' := by
  obtain ⟨a, v, e, operand, effect, carries⟩ := h
  obtain ⟨a', v', e', operand', effect', carries'⟩ := h'
  obtain rfl : e = e' := by
    by_cases halts : c.instruction = .halt
    · simp only [Ram.effect, halts] at effect effect'
      exact Except.ok.inj (effect.symm.trans effect')
    · obtain ⟨designates, yields⟩ := operand halts
      obtain ⟨designates', yields'⟩ := operand' halts
      obtain rfl := designates.unique designates'
      obtain rfl := yields.unique yields'
      exact Except.ok.inj (effect.symm.trans effect')
  exact carries.unique carries'

/-! ## Steps -/

/-- The instruction table has two faults. -/
theorem apply_cases (m : Machine) (c : Command) (a : Address) (v : Value) :
    (c.instruction = .read ∧ m.input.length ≤ m.inputPointer ∧
      m.apply c a v = .error (.inputExhausted c.line m.inputPointer)) ∨
    (c.instruction = .div ∧ v = 0 ∧ m.apply c a v = .error (.divisionByZero c.line)) ∨
    ∃ m', m.apply c a v = .ok m' ∧ (c.instruction = .read → m.inputPointer < m.input.length) ∧
      (c.instruction = .div → v ≠ 0) := by
  cases instruction : c.instruction with
  | read =>
    rcases next : m.input[m.inputPointer]? with _ | x
    · refine .inl ⟨rfl, List.getElem?_eq_none_iff.mp next, ?_⟩
      simp only [apply, instruction, next]
    · have within := (List.getElem?_eq_some_iff.mp next).1
      refine .inr (.inr ⟨_, by simp only [apply, instruction, next]; rfl, fun _ => within, ?_⟩)
      intro divides
      cases divides
  | div =>
    by_cases none : v = 0
    · refine .inr (.inl ⟨rfl, none, ?_⟩)
      simp only [apply, instruction, if_pos none]
    · refine .inr (.inr ⟨_, by simp only [apply, instruction, if_neg none]; rfl, ?_, fun _ => none⟩)
      intro reads
      cases reads
  | write | load | store | add | sub | mul | goto | jz | jgtz | halt =>
    refine .inr (.inr ⟨_, by simp only [apply, instruction]; rfl, ?_, ?_⟩) <;>
      exact fun other => by cases other

/-- What is looked at before the instruction table: the markers, and the operand if it is used. -/
theorem perform_cases (m : Machine) (c : Command) :
    (c.Overmarked ∧
      m.perform c = .error (.illegalOperand c.line c.instruction c.operand.text)) ∨
    (¬ c.Overmarked ∧ c.instruction = .halt ∧ m.perform c = .ok (m.jump 0)) ∨
    (¬ c.Overmarked ∧ c.instruction ≠ .halt ∧ ∃ v, c.operand.Strays m.registers v ∧
      m.perform c = .error (.negativeAddress c.line v)) ∨
    (¬ c.Overmarked ∧ c.instruction ≠ .halt ∧ ∃ a v, c.operand.Designates m.registers a ∧
      c.operand.Yields m.registers v ∧ m.perform c = m.apply c a v) := by
  by_cases overmarked : c.Overmarked
  · exact .inl ⟨overmarked, if_pos (Command.overmarked_iff.mp overmarked)⟩
  have legal := mt Command.overmarked_iff.mpr overmarked
  by_cases halts : c.instruction = .halt
  · refine .inr (.inl ⟨overmarked, halts, ?_⟩)
    rw [perform, if_neg legal, if_pos halts]
  rcases address : c.operand.address m.registers with v | a
  · refine .inr (.inr (.inl ⟨overmarked, halts, v, Operand.address_eq_error_iff.mp address, ?_⟩))
    rw [perform, if_neg legal, if_neg halts, Operand.resolve_eq_error_iff.mpr address]
  · have value := Operand.valueAt_of_address address
    refine .inr (.inr (.inr ⟨overmarked, halts, a, c.operand.valueAt m.registers a,
      Operand.address_eq_ok_iff.mp address, Operand.value_eq_ok_iff.mp value, ?_⟩))
    rw [perform, if_neg legal, if_neg halts, Operand.resolve_eq_ok_iff.mpr ⟨address, value⟩]

/-- A command that has been fetched meets its first obstacle, or there is none and it is
performed. -/
theorem perform_meets (fetched : m.program.get? m.instructionPointer = some c) :
    (∃ f, m.perform c = .error f ∧ m.FirstObstacle f) ∨
    ∃ m', m.perform c = .ok m' ∧ (∀ rank f, ¬ m.Obstacle rank f) ∧ m.Performs c m' := by
  -- Each stage rules out the obstacles of its rank for the later ones.
  rcases m.perform_cases c with ⟨overmarked, failed⟩ | ⟨legal, halts, performed⟩ |
    ⟨legal, used, v, strays, failed⟩ | ⟨legal, used, a, v, designates, yields, performed⟩
  · refine .inl ⟨_, failed, 1, .overmarked fetched overmarked, fun lower below g obstacle => ?_⟩
    rcases obstacle.of_fetched fetched with h | h | h | h <;> omega
  · refine .inr ⟨_, performed, fun rank f obstacle => ?_, 0, 0, { jump := some 0 },
      fun used => absurd halts used, by simp only [Ram.effect, halts], m.carries_jump rfl⟩
    rcases obstacle.of_fetched fetched with ⟨-, h⟩ | ⟨-, h, -⟩ | ⟨-, h, -⟩ | ⟨-, h, -⟩
    · exact legal h
    · exact h halts
    · cases halts.symm.trans h
    · cases halts.symm.trans h
  · refine .inl ⟨_, failed, 2, .astray fetched used strays, fun lower below g obstacle => ?_⟩
    rcases obstacle.of_fetched fetched with ⟨-, h⟩ | h | h | h
    · exact legal h
    all_goals omega
  have straight := designates.not_strays
  rcases m.apply_cases c a v with ⟨reads, ended, failed⟩ | ⟨divides, rfl, failed⟩ |
    ⟨m', applied, input, divisor⟩
  · refine .inl ⟨_, performed.trans failed, 3, .exhausted fetched reads ended,
      fun lower below g obstacle => ?_⟩
    rcases obstacle.of_fetched fetched with ⟨-, h⟩ | ⟨-, -, w, h⟩ | h | h
    · exact legal h
    · exact straight w h
    all_goals omega
  · refine .inl ⟨_, performed.trans failed, 4, .zero fetched divides yields,
      fun lower below g obstacle => ?_⟩
    rcases obstacle.of_fetched fetched with ⟨-, h⟩ | ⟨-, -, w, h⟩ | ⟨-, h, -⟩ | h
    · exact legal h
    · exact straight w h
    · cases divides.symm.trans h
    · omega
  · obtain ⟨e, effect, carries⟩ := apply_carries applied
    refine .inr ⟨m', performed.trans applied, fun rank f obstacle => ?_, a, v, e,
      fun _ => ⟨designates, yields⟩, effect, carries⟩
    rcases obstacle.of_fetched fetched with ⟨-, h⟩ | ⟨-, -, w, h⟩ | ⟨-, h, ended⟩ | ⟨-, h, zero⟩
    · exact legal h
    · exact straight w h
    · exact absurd ended (Nat.not_le_of_lt (input h))
    · exact divisor h (yields.unique zero)

/-- A step meets its first obstacle, or there is none and it performs its command. -/
theorem step_cases (m : Machine) :
    (∃ f, m.step = .error f ∧ m.FirstObstacle f) ∨
    ∃ c m', m.step = .ok (⟨c, m'.instructionPointer⟩, m') ∧ (∀ rank f, ¬ m.Obstacle rank f) ∧
      m.program.get? m.instructionPointer = some c ∧ m.Performs c m' := by
  rcases fetched : m.program.get? m.instructionPointer with _ | c
  · refine .inl ⟨_, ?_, 0, .missing fetched, fun _ below => absurd below (Nat.not_lt_zero _)⟩
    simp only [step, current, fetched]
  rcases perform_meets fetched with ⟨f, failed, first⟩ | ⟨m', performed, none, performs⟩
  · refine .inl ⟨f, ?_, first⟩
    simp only [step, current, fetched, failed]
  · refine .inr ⟨c, m', ?_, none, rfl, performs⟩
    simp only [step, current, fetched, performed]

/-- A step fails exactly with the fault of its first obstacle.  Whether a step in place finds
out what it is going to change or carries it out, the machine that a failed one leaves behind is
the one that it started from, and so it is for a run that ends there.  A step succeeds exactly if
nothing is in its way, and then performs the command at the pointer. -/
theorem step_exact (m : Machine) :
    (∀ f, m.step = .error f ↔ m.FirstObstacle f) ∧
    (∀ f m', m.stepInPlace = (.error f, m') ↔ m.FirstObstacle f ∧ m' = m) ∧
    (∀ f, m.step = .error f → ∀ limit, (m.run limit).1 = m) ∧
    (∀ o m', m.step = .ok (o, m') ↔
      (∀ rank f, ¬ m.Obstacle rank f) ∧ m.program.get? m.instructionPointer = some o.command ∧
        m.Performs o.command m' ∧ o.next = m'.instructionPointer) ∧
    ∀ o m', m.stepInPlace = (.ok o, m') ↔ m.step = .ok (o, m') := by
  have fails (f : Fault) : m.step = .error f ↔ m.FirstObstacle f := by
    constructor
    · intro failed
      rcases m.step_cases with ⟨g, failed', first⟩ | ⟨c, m', stepped, -⟩
      · cases failed.symm.trans failed'
        exact first
      · cases failed.symm.trans stepped
    · intro first
      rcases m.step_cases with ⟨g, failed, first'⟩ | ⟨c, m', -, none, -⟩
      · rw [first.unique first', failed]
      · obtain ⟨rank, obstacle, -⟩ := first
        exact absurd obstacle (none rank f)
  refine ⟨fails, fun f m' => ?_, fun f failed limit => ?_, fun o m' => ⟨fun stepped => ?_, ?_⟩,
    fun o m' => stepInPlace_eq_ok_iff⟩
  · rw [stepInPlace_eq_error_iff, fails]
  · rcases limit with _ | limit
    · simp only [run, runFrom]
      split <;> rfl
    · simp only [run, runFrom_succ, failed]
      split <;> rfl
  · rcases m.step_cases with ⟨g, failed, -⟩ | ⟨c, m'', stepped', none, fetched, performs⟩
    · cases failed.symm.trans stepped
    · cases stepped.symm.trans stepped'
      exact ⟨none, fetched, performs, rfl⟩
  · rintro ⟨none, fetched, performs, next⟩
    rcases m.step_cases with ⟨g, -, rank, obstacle, -⟩ | ⟨c, m'', stepped, -, fetched', performs'⟩
    · exact absurd obstacle (none rank g)
    · cases fetched.symm.trans fetched'
      obtain rfl := performs.unique performs'
      rw [stepped, ← next]

/-- A jump that would not be taken fails for its operand, and a halt does not look at it. -/
example :
    let m (i : Instruction) : Machine :=
      { start ⟨[⟨i, ⟨1, 2⟩, 1⟩]⟩ [] with registers := Registers.initial.setAll [(0, 5), (1, -4)] }
    (m .jz).step = .error (.negativeAddress 1 (-4)) ∧
      (m .halt).step = .ok (⟨⟨.halt, ⟨1, 2⟩, 1⟩, 0⟩, (m .halt).jump 0) := by
  decide +kernel

end Machine

end RegisterMachine
