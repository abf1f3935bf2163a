import RegisterMachine.Debug.Session
import RegisterMachine.Proofs.Debug.Trace

/-!
# The operator does not matter

A session with an operator may go back, set breakpoints and ask for states as often as
it likes; what it comes to is what a plain run of the machine comes to.  A console bounds
how often that is; with an operator who never stops, a session need not come to anything.

* `Concludes`: the ways in which a session can end, each with the machine of the plain
  run at which it does; `run_concludes` shows that a session has no others.
* `runSession_transparent`: a session that halts reports the steps and the output of
  `Machine.run`, one that faults has its fault, and one that the operator ends shows
  the output in front of the pending command.

The one fault on which the two disagree is a pointer that leaves the program with the
last command that the limit allows (`StraysAfter`): a run gives the limit as the reason
and a session, which looks for the command before it counts, the missing line.
-/

namespace RegisterMachine

/-- After exactly `n` commands the machine is `m'`, whose pointer is outside the program
without being zero. -/
def Machine.StraysAfter (m : Machine) (n : Nat) (m' : Machine) : Prop :=
  m.advance n = .ok m' ∧ m'.instructionPointer ≠ 0 ∧
    m'.program.get? m'.instructionPointer = none

namespace Debugger

variable {σ : Type} [Console σ]

/-- How a session that started on `m₀` can end. -/
inductive Concludes (m₀ : Machine) (settings : Settings) :
    Except Fault SessionEnd → Debugger → Prop
  | halted {n : Nat} {d : Debugger} (traced : Traces m₀ n n d)
    (within : n ≤ settings.instructionLimit) (halted : d.machine.isHalted = true) :
    Concludes m₀ settings (.ok .halted) d
  | exited {n : Nat} {d : Debugger} (traced : Traces m₀ n (n + 1) d)
    (within : n < settings.instructionLimit) (interactive : settings.interactive = true) :
    Concludes m₀ settings (.ok .exited) d
  | missing {n : Nat} {m : Machine} {f : Fault} {d : Debugger} (reached : m₀.advance n = .ok m)
    (within : n ≤ settings.instructionLimit) (running : m.isHalted = false)
    (absent : m.snapshot = .error f) : Concludes m₀ settings (.error f) d
  | outgrown {m : Machine} {h : Snapshot} {d : Debugger}
    (reached : m₀.advance settings.instructionLimit = .ok m) (running : m.isHalted = false)
    (snapshot : m.snapshot = .ok h) :
    Concludes m₀ settings (.error (.limitExceeded settings.instructionLimit)) d
  | faulted {n : Nat} {m : Machine} {h : Snapshot} {f : Fault} {d : Debugger}
    (reached : m₀.advance n = .ok m) (within : n < settings.instructionLimit)
    (snapshot : m.snapshot = .ok h) (failed : m.step = .error f) :
    Concludes m₀ settings (.error f) d

/-- A pending command stands on a line of the program. -/
theorem Traces.snapshot {m₀ : Machine} {n : Nat} {d : Debugger} (traced : Traces m₀ n (n + 1) d) :
    ∃ h, d.machine.snapshot = .ok h := by
  have last : n < d.history.size := traced.size_eq ▸ Nat.lt_succ_self n
  obtain ⟨m, reached, taken⟩ := traced.recorded (Array.getElem?_eq_getElem last)
  obtain rfl := Except.ok.inj (traced.reached.symm.trans reached)
  exact ⟨_, taken⟩

/-- Between two steps a session either ends as `Concludes` allows or performs a command
and is between two steps again. -/
theorem Transition.concludes {m₀ : Machine} {n : Nat} {d d' : Debugger}
    {result : Except Fault StepResult} (moved : Transition d result d')
    (traced : Traces m₀ n n d) (fresh : d.resuming = false) (live : d.phase ≠ .terminated)
    (running : d.machine.isHalted = false) (within : n ≤ d.settings.instructionLimit) :
    match result with
    | .error f => Concludes m₀ d.settings (.error f) d'
    | .ok .exited => Concludes m₀ d.settings (.ok .exited) d'
    | .ok (.performed _) => d'.settings = d.settings ∧ d'.resuming = false ∧
        d'.phase ≠ .terminated ∧ ∃ k ≤ d.settings.instructionLimit, Traces m₀ k k d' := by
  have between : Traces m₀ n (n + d.resuming.toNat) d := by
    rw [fresh]
    exact traced
  have room {d₁ : Debugger} (opened : Opens d d₁) : n < d.settings.instructionLimit := by
    cases opened with
    | again resuming =>
      rw [fresh] at resuming
      cases resuming
    | anew _ _ room => exact traced.size_eq ▸ room
  cases moved with
  | ended terminated => exact absurd terminated live
  | missing _ _ absent => exact .missing traced.reached within running absent
  | outgrown _ _ snapshot full =>
    have last : n = d.settings.instructionLimit := Nat.le_antisymm within (traced.size_eq ▸ full)
    exact .outgrown (last ▸ traced.reached) running snapshot
  | left _ opened interactive conversed =>
    have kept := opened.keeps
    obtain ⟨k, le, back⟩ := (between.opens opened).converses conversed
    exact .exited back (Nat.lt_of_le_of_lt le (room opened)) (kept.2.1 ▸ interactive)
  | performed _ opened proceeded done =>
    have kept := opened.keeps
    obtain ⟨k, le, pending⟩ := (between.opens opened).proceeds proceeded
    refine ⟨proceeded.keeps.1.trans kept.2.1, proceeded.fresh kept.2.2.2,
      proceeded.live (kept.1 ▸ live), k + 1, ?_, pending.performs done⟩
    exact Nat.succ_le_of_lt (Nat.lt_of_le_of_lt le (room opened))
  | faulted _ opened proceeded failed =>
    obtain ⟨k, le, pending⟩ := (between.opens opened).proceeds proceeded
    obtain ⟨h, snapshot⟩ := pending.snapshot
    exact .faulted pending.reached (Nat.lt_of_le_of_lt le (room opened)) snapshot failed

/-- Every session ends in one of the ways of `Concludes`. -/
theorem run_concludes {m₀ : Machine} {n : Nat} {d d' : Debugger} {s s' : σ}
    {result : Except Fault SessionEnd} (traced : Traces m₀ n n d) (fresh : d.resuming = false)
    (live : d.phase ≠ .terminated) (within : n ≤ d.settings.instructionLimit)
    (done : d.run s = (result, d', s')) : Concludes m₀ d.settings result d' := by
  fun_induction run d s generalizing n with
  | case1 d s halted =>
    cases done
    exact .halted traced within halted
  | case2 d s running f d₁ s₁ stepped =>
    cases done
    exact (step_transition stepped).concludes traced fresh live (by simpa using running) within
  | case3 d s running d₁ s₁ stepped =>
    cases done
    exact (step_transition stepped).concludes traced fresh live (by simpa using running) within
  | case4 d s running d₁ s₁ o stepped _ ih =>
    obtain ⟨settings, fresh, live, k, within, traced⟩ :=
      (step_transition stepped).concludes traced fresh live (by simpa using running) within
    rw [← settings] at within ⊢
    exact ih traced fresh live within done

end Debugger

variable {σ : Type} [Console σ]

/-- The fault of a session is that of a plain run, but for a machine that strays from the
program with the last command allowed. -/
theorem Debugger.Concludes.fault {m₀ : Machine} {settings : Settings} {f : Fault} {d : Debugger}
    (concluded : Concludes m₀ settings (.error f) d) :
    (∃ m, m₀.StraysAfter settings.instructionLimit m ∧
      (m₀.run settings.instructionLimit).2 = .error (.limitExceeded settings.instructionLimit) ∧
      f = .lineNotFound m.instructionPointer) ∨
    ((¬ ∃ m, m₀.StraysAfter settings.instructionLimit m) ∧
      (m₀.run settings.instructionLimit).2 = .error f) := by
  -- A machine that fails before the limit does not get as far as to stray there.
  have settled {n : Nat} {m : Machine} (reached : m₀.advance n = .ok m)
      (failed : m.step = .error f) (lt : n < settings.instructionLimit) :
      ¬ ∃ m', m₀.StraysAfter settings.instructionLimit m' := by
    rintro ⟨m', further, -⟩
    obtain ⟨o, next, stepped⟩ := Machine.step_of_advance_lt further reached lt
    rw [failed] at stepped
    cases stepped
  cases concluded with
  | @missing n m _ _ reached within running absent =>
    have failed := Machine.step_eq_error_of_snapshot absent
    rcases Nat.lt_or_eq_of_le within with lt | rfl
    · right
      refine ⟨settled reached failed lt, ?_⟩
      rw [Machine.run_of_fault reached lt running failed]
    · left
      obtain ⟨outside, rfl⟩ := Machine.snapshot_eq_error_iff.mp absent
      refine ⟨m, ⟨reached, ?_, outside⟩, ?_, rfl⟩
      · intro zero
        rw [Machine.isHalted_iff.mpr zero] at running
        cases running
      · rw [Machine.run_of_limit reached running]
  | @outgrown m h _ reached running snapshot =>
    right
    refine ⟨?_, by rw [Machine.run_of_limit reached running]⟩
    rintro ⟨m', further, -, outside⟩
    obtain rfl := Except.ok.inj (reached.symm.trans further)
    obtain ⟨recorded, pointer, -⟩ := Machine.snapshot_eq_ok_iff.mp snapshot
    rw [pointer, recorded] at outside
    cases outside
  | faulted reached within snapshot failed =>
    right
    refine ⟨settled reached failed within, ?_⟩
    rw [Machine.run_of_fault reached within (Machine.isHalted_of_snapshot snapshot) failed]

/-- A session comes to what a plain run of its machine comes to, whatever the operator
does: the same report if it halts and the same fault if it faults, but for a machine
that strays.  A session that the operator ends, which takes an operator, shows the
output in front of the command that its last snapshot holds. -/
theorem runSession_transparent {program : Program} {input : List Value} {settings : Settings}
    {d : Debugger} (accepted : Debugger.create (Machine.start program input) settings = .ok d)
    (s : σ) :
    let start := Machine.start program input
    let limit := settings.instructionLimit
    match (runSession program input settings s).1 with
    | .ok ⟨.halted, output, snapshots⟩ => (start.run limit).2 = .ok ⟨snapshots, output⟩
    | .ok ⟨.exited, output, snapshots⟩ =>
      settings.interactive = true ∧ 1 ≤ snapshots ∧ snapshots ≤ limit ∧
        ∃ m, start.advance (snapshots - 1) = .ok m ∧ output = m.output
    | .error (.fault f) =>
      (∃ m, start.StraysAfter limit m ∧ (start.run limit).2 = .error (.limitExceeded limit) ∧
        f = .lineNotFound m.instructionPointer) ∨
      ((¬ ∃ m, start.StraysAfter limit m) ∧ (start.run limit).2 = .error f)
    | .error (.settings _) => False := by
  intro start limit
  have concluded {result : Except Fault SessionEnd} {d' : Debugger} {s' : σ}
      (ended : d.run s = (result, d', s')) : Debugger.Concludes start settings result d' := by
    obtain ⟨delay, rfl⟩ := Debugger.create_eq_ok accepted
    exact Debugger.run_concludes ⟨rfl, rfl, by simp⟩ rfl (by simp) (Nat.zero_le _) ended
  rcases ended : d.run s with ⟨f | ending, d', s'⟩
  · simp only [runSession, accepted, concludeSession, ended]
    exact (concluded ended).fault
  · simp only [runSession, accepted, concludeSession, ended]
    cases concluded ended with
    | halted traced within halted =>
      rw [traced.size_eq]
      exact congrArg Prod.snd (Machine.run_of_halted traced.reached within halted)
    | @exited n _ traced within interactive =>
      rw [traced.size_eq]
      exact ⟨interactive, Nat.succ_pos n, within, d'.machine, traced.reached, rfl⟩

/-- Copies one value from the input to the output. -/
def copyOne : Program :=
  ⟨[⟨.read, .immediate 1, 1⟩, ⟨.write, .immediate 1, 2⟩, ⟨.halt, .absent, 3⟩]⟩

/-- An operator who goes back to the start, mistypes and sets a breakpoint. -/
def wanderingOperator : Script where
  answers := ["", "rollback 0", "back", "", "suspenduntil 3", "y", ""].map some

theorem runSession_transparent_wandering :
    let settings : Settings := { instructionLimit := 3, interactive := true }
    (∃ d, Debugger.create (Machine.start copyOne [7]) settings = .ok d) ∧
      (runSession copyOne [7] settings wanderingOperator).1 = .ok ⟨.halted, #[7], 3⟩ ∧
      ((Machine.start copyOne [7]).run 3).2 = .ok ⟨3, #[7]⟩ := by
  intro settings
  have accepted : Debugger.create (Machine.start copyOne [7]) settings =
      .ok ⟨Machine.start copyOne [7], settings, ⟨1, 0⟩, #[], .running, false⟩ := rfl
  have report : (runSession copyOne [7] settings wanderingOperator).1 =
      .ok ⟨.halted, #[7], 3⟩ := by decide +kernel
  have agreed := runSession_transparent accepted wanderingOperator
  rw [report] at agreed
  exact ⟨⟨_, accepted⟩, report, agreed⟩

end RegisterMachine
