import RegisterMachine.Debug.Console
import RegisterMachine.Debug.Frame
import RegisterMachine.Debug.Operator

/-!
# The debugger

A debugger records a snapshot in front of every command, shows frames, and lets
an operator look at the recorded states and return to any of them.

A step has three parts. `enter` records the snapshot and shows the frame; if an
operator is to be asked, `converse` reads lines until one of them resumes or ends
the session; `execute` performs the command. The parts are separate so that a
program with a live operator can drive them one line at a time.

- `Debugger.step` and `Debugger.run` put the parts together.
- `Debugger.handle` is what one operator's line does.
- `step_follows`: a step that performs a command reads a line or uses up room in the
  history. This is why a run ends.
-/

namespace RegisterMachine

/-- A machine with its recorded past. -/
structure Debugger where
  machine : Machine
  settings : Settings
  delay : Duration
  history : Array Snapshot
  phase : Phase
  /-- The last snapshot already describes the pending command, which a rollback
  brought back; the next step does not record it again. -/
  resuming : Bool
  deriving DecidableEq

/-- How a step opens. -/
inductive Opening where
  | exited
  | faulted (fault : Fault)
  | ready
  | prompting
  deriving DecidableEq, Repr

/-- What a step did. -/
inductive StepResult where
  | performed (outcome : Outcome)
  | exited
  deriving DecidableEq, Repr

/-- What an operator's command calls for: a verdict, or first a yes or no to a
breakpoint. -/
inductive Reaction where
  | verdict (v : Verdict)
  | confirm (line : Nat)
  deriving DecidableEq, Repr

namespace Debugger

/-- A debugger with nothing recorded, for settings that are valid. -/
def create (machine : Machine) (settings : Settings) : Except SettingsError Debugger :=
  match settings.validate with
  | .error e => .error e
  | .ok () =>
    match settings.delay with
    | .error e => .error e
    | .ok delay =>
      .ok { machine, settings, delay, history := #[], phase := .running, resuming := false }

/-- The frame of the present state. -/
def frame (d : Debugger) : String :=
  renderFrame d.history d.machine.registers d.settings.frameRows

variable {σ : Type} [Console σ]

/-! ## Opening a step -/

/-- Shows the frame, then waits, or leaves the rest to the operator. -/
def draw (d : Debugger) (s : σ) : Opening × Debugger × σ :=
  let s := Console.display s d.frame
  if d.settings.interactive then (.prompting, { d with phase := .paused }, s)
  else (.ready, d, Console.pause s d.delay)

/-- Shows the frame if one is due. A breakpoint that is reached is used up. -/
def present (d : Debugger) (s : σ) : Opening × Debugger × σ :=
  if d.settings.renders then
    match d.phase with
    | .running | .paused => d.draw s
    | .suspendedUntil line =>
      if d.machine.instructionPointer = line then
        { d with phase := .running }.draw (Console.note s (.breakpointHit line))
      else (.ready, d, s)
    | .continuing | .terminated => (.ready, d, s)
  else (.ready, d, s)

/-- Records the present state. A history that outgrows the limit is a fault, and
keeps the snapshot that made it so. -/
def record (d : Debugger) (s : σ) : Except Fault Unit × Debugger × σ :=
  match d.machine.snapshot with
  | .error f => (.error f, d, s)
  | .ok snapshot =>
    let limit := d.settings.instructionLimit
    let d := { d with history := d.history.push snapshot }
    if limit < d.history.size then
      (.error (.limitExceeded limit), d, Console.note s (.historyExceeded limit))
    else (.ok (), d, s)

/-- Opens a step: records the present state unless a rollback has done so, and
shows the frame if one is due. Nothing happens once the session has ended. -/
def enter (d : Debugger) (s : σ) : Opening × Debugger × σ :=
  if d.phase = .terminated then (.exited, d, s)
  else if d.resuming then { d with resuming := false }.present s
  else
    match d.record s with
    | (.error f, d, s) => (.faulted f, d, s)
    | (.ok (), d, s) => d.present s

/-! ## The operator -/

/-- Goes back to the snapshot `index` and forgets those after it. -/
def rollback (d : Debugger) (index : Nat) (s : σ) : Except OperatorError Unit × Debugger × σ :=
  match d.history[index]? with
  | none => (.error (.snapshotOutOfRange index d.history.size), d, s)
  | some snapshot =>
    (.ok (),
      { d with
        history := d.history.take (index + 1)
        machine := d.machine.restore snapshot
        resuming := true },
      Console.note s (.rolledBack index snapshot.command))

/-- Whether a breakpoint may be set on the line; zero stands for a line that is
never reached. -/
def checkBreakpoint (d : Debugger) (line : Nat) : Except OperatorError Unit :=
  if line = 0 || d.machine.program.hasLine line then .ok ()
  else .error (.lineOutOfRange line d.machine.program.size)

/-- Shows nothing more until the pointer reaches the line. -/
def suspendUntil (d : Debugger) (line : Nat) (s : σ) : Except OperatorError Unit × Debugger × σ :=
  match d.checkBreakpoint line with
  | .error e => (.error e, d, s)
  | .ok () =>
    (.ok (), { d with phase := .suspendedUntil line }, Console.note s (.breakpointArmed line))

/-- Shows nothing more. -/
def continueSilently (d : Debugger) (s : σ) : Debugger × σ :=
  ({ d with phase := .continuing }, Console.note s .continuing)

/-- Goes back to a snapshot and shows the frame. -/
def revisit (d : Debugger) (index : Nat) (s : σ) :
    Except OperatorError Reaction × Debugger × σ :=
  match d.rollback index s with
  | (.error e, d, s) => (.error e, d, s)
  | (.ok (), d, s) => (.ok (.verdict .stay), d, Console.display s d.frame)

/-- What the debugger does about a command. -/
def react (d : Debugger) (command : OperatorCommand) (s : σ) :
    Except OperatorError Reaction × Debugger × σ :=
  match command with
  | .step => (.ok (.verdict .resume), d, s)
  | .help => (.ok (.verdict .stay), d, Console.display s OperatorCommand.helpText)
  | .exit => (.ok (.verdict .exit), d, s)
  | .proceed =>
    let (d, s) := d.continueSilently s
    (.ok (.verdict .resume), d, s)
  | .states => (.ok (.verdict .stay), d, Console.display s (renderStates d.history))
  | .reset => d.revisit 0 s
  | .rollback index => d.revisit index s
  | .suspendUntil line =>
    match d.checkBreakpoint line with
    | .error e => (.error e, d, s)
    | .ok () =>
      (.ok (.confirm line), d,
        Console.display s ("suspend until line " ++ toString line ++ "? [y/N]"))

/-- Arms the breakpoint on `line` if the answer says yes. -/
def settle (d : Debugger) (line : Nat) (answer : Option String) (s : σ) :
    Except OperatorError Verdict × Debugger × σ :=
  if answer.any isAffirmative then
    match d.suspendUntil line s with
    | (.error e, d, s) => (.error e, d, s)
    | (.ok (), d, s) => (.ok .resume, d, s)
  else (.ok .stay, d, Console.display s "breakpoint not set")

/-- Does what an operator's line asks for, as far as that needs no further
answer. -/
def begin (d : Debugger) (line : String) (s : σ) :
    Except OperatorError Reaction × Debugger × σ :=
  match OperatorCommand.parse line with
  | .error e => (.error e, d, s)
  | .ok command => d.react command (Console.note s (.operatorCommand command.name))

/-- Does what an operator's line asks for. A refused line changes nothing but the
journal. -/
def handle (d : Debugger) (line : String) (s : σ) :
    Except OperatorError Verdict × Debugger × σ :=
  match d.begin line s with
  | (.error e, d, s) => (.error e, d, s)
  | (.ok (.verdict v), d, s) => (.ok v, d, s)
  | (.ok (.confirm target), d, s) =>
    let (answer, s) := Console.ask s
    d.settle target answer s

/-- Shows why a line was refused. -/
def refuse (e : OperatorError) (s : σ) : σ :=
  Console.display s ("error: " ++ e.message)

/-- Leaves the prompt to perform the pending command, which is the one that the
last snapshot holds. -/
def resume (d : Debugger) : Debugger :=
  { d with
    resuming := false
    phase := if d.phase = .paused then .running else d.phase }

/-- Ends the session. -/
def terminate (d : Debugger) : Debugger := { d with phase := .terminated }

/-- What every operation keeps to: the settings stay, and no lines are added to those to be
read. -/
structure Follows (d : Debugger) (s : σ) (d' : Debugger) (s' : σ) : Prop where
  settings : d'.settings = d.settings
  pending : Console.pending s' ≤ Console.pending s

theorem Follows.refl (d : Debugger) (s : σ) : Follows d s d s := ⟨rfl, Nat.le_refl _⟩

theorem Follows.trans {d d' d'' : Debugger} {s s' s'' : σ} (h : Follows d s d' s')
    (h' : Follows d' s' d'' s'') : Follows d s d'' s'' :=
  ⟨h'.settings.trans h.settings, Nat.le_trans h'.pending h.pending⟩

theorem rollback_follows {d d' : Debugger} {index : Nat} {result : Except OperatorError Unit}
    {s s' : σ} (h : d.rollback index s = (result, d', s')) : Follows d s d' s' := by
  unfold rollback at h
  split at h <;> cases h
  · exact .refl d s
  · exact ⟨rfl, Console.pending_note _ _⟩

theorem suspendUntil_follows {d d' : Debugger} {line : Nat} {result : Except OperatorError Unit}
    {s s' : σ} (h : d.suspendUntil line s = (result, d', s')) : Follows d s d' s' := by
  unfold suspendUntil at h
  split at h <;> cases h
  · exact .refl d s
  · exact ⟨rfl, Console.pending_note _ _⟩

theorem revisit_follows {d d' : Debugger} {index : Nat} {result : Except OperatorError Reaction}
    {s s' : σ} (h : d.revisit index s = (result, d', s')) : Follows d s d' s' := by
  unfold revisit at h
  split at h <;> rename_i back <;> cases h
  · exact rollback_follows back
  · exact (rollback_follows back).trans ⟨rfl, Console.pending_display _ _⟩

theorem react_follows {d d' : Debugger} {command : OperatorCommand}
    {result : Except OperatorError Reaction} {s s' : σ}
    (h : d.react command s = (result, d', s')) : Follows d s d' s' := by
  cases command with
  | step | exit => cases h; exact .refl d s
  | help | states => cases h; exact ⟨rfl, Console.pending_display _ _⟩
  | proceed => cases h; exact ⟨rfl, Console.pending_note _ _⟩
  | reset => exact revisit_follows h
  | rollback index => exact revisit_follows h
  | suspendUntil line =>
    unfold react at h
    simp only at h
    split at h <;> cases h
    · exact .refl d s
    · exact ⟨rfl, Console.pending_display _ _⟩

theorem begin_follows {d d' : Debugger} {line : String} {s s' : σ}
    {result : Except OperatorError Reaction} (h : d.begin line s = (result, d', s')) :
    Follows d s d' s' := by
  unfold begin at h
  split at h
  · cases h
    exact .refl d s
  · exact Follows.trans ⟨rfl, Console.pending_note _ _⟩ (react_follows h)

theorem settle_follows {d d' : Debugger} {line : Nat} {answer : Option String}
    {result : Except OperatorError Verdict} {s s' : σ}
    (h : d.settle line answer s = (result, d', s')) : Follows d s d' s' := by
  unfold settle at h
  split at h
  · split at h <;> rename_i armed <;> cases h <;> exact suspendUntil_follows armed
  · cases h
    exact ⟨rfl, Console.pending_display _ _⟩

theorem handle_follows {d d' : Debugger} {line : String} {s s' : σ}
    {result : Except OperatorError Verdict} (h : d.handle line s = (result, d', s')) :
    Follows d s d' s' := by
  unfold handle at h
  split at h <;> rename_i begun
  · cases h
    exact begin_follows begun
  · cases h
    exact begin_follows begun
  · exact ((begin_follows begun).trans ⟨rfl, Console.pending_ask _⟩).trans (settle_follows h)

/-- Asks for one line and does what it asks for. The answer `some true` means
that the run resumes, `some false` that the session has ended, and `none` that the
operator is to be asked again. Closed input ends the session. -/
def exchange (d : Debugger) (s : σ) : Option Bool × Debugger × σ :=
  match Console.ask s with
  | (none, s) => (some false, d.terminate, s)
  | (some line, s) =>
    match d.handle line s with
    | (.ok .resume, d, s) => (some true, d.resume, s)
    | (.ok .exit, d, s) => (some false, d.terminate, s)
    | (.ok .stay, d, s) => (none, d, s)
    | (.error e, d, s) => (none, d, refuse e s)

/-- An exchange that does not end the session has read a line. -/
theorem exchange_follows {d d' : Debugger} {s s' : σ} {settled : Option Bool}
    (h : d.exchange s = (settled, d', s')) :
    Follows d s d' s' ∧
      (settled ≠ some false → Console.pending s' < Console.pending s) := by
  have asked := Console.pending_ask s
  have read := Console.pending_ask_lt s
  unfold exchange at h
  split at h <;> rename_i answer
  · rw [answer] at asked
    cases h
    exact ⟨⟨rfl, asked⟩, fun other => absurd rfl other⟩
  · rw [answer] at read
    have read := read rfl
    simp only at read
    have after {d₁ : Debugger} {s₁ : σ} (kept : Follows d _ d₁ s₁) :
        Follows d s d₁ s₁ ∧ Console.pending s₁ < Console.pending s :=
      ⟨⟨kept.settings, Nat.le_trans kept.pending (Nat.le_of_lt read)⟩,
        Nat.lt_of_le_of_lt kept.pending read⟩
    split at h <;> rename_i handled <;> cases h <;> have kept := handle_follows handled
    · exact ⟨⟨kept.settings, (after kept).1.pending⟩, fun _ => (after kept).2⟩
    · exact ⟨⟨kept.settings, (after kept).1.pending⟩, fun _ => (after kept).2⟩
    · exact ⟨(after kept).1, fun _ => (after kept).2⟩
    · have shown {text : String} := kept.trans ⟨rfl, Console.pending_display _ text⟩
      exact ⟨(after shown).1, fun _ => (after shown).2⟩

/-- Reads lines until one of them resumes the run (`true`) or ends the session
(`false`). -/
def converse (d : Debugger) (s : σ) : Bool × Debugger × σ :=
  match h : d.exchange s with
  | (some resumes, d', s') => (resumes, d', s')
  | (none, d', s') =>
    have := (exchange_follows h).2 (by simp)
    d'.converse s'
termination_by Console.pending s

theorem converse_follows {d d' : Debugger} {s s' : σ} {resumes : Bool}
    (h : d.converse s = (resumes, d', s')) :
    Follows d s d' s' ∧ (resumes = true → Console.pending s' < Console.pending s) := by
  fun_induction converse d s with
  | case1 d s resumes d₁ s₁ settled =>
    cases h
    have bound := exchange_follows settled
    exact ⟨bound.1, fun yes => bound.2 (by simp [yes])⟩
  | case2 d s d₁ s₁ settled read ih =>
    have later := ih h
    exact ⟨(exchange_follows settled).1.trans later.1,
      fun yes => Nat.lt_trans (later.2 yes) read⟩

/-! ## Steps and runs -/

/-- Performs the pending command. -/
def execute (d : Debugger) (s : σ) : Except Fault StepResult × Debugger × σ :=
  match d.machine.stepInPlace with
  | (.error f, machine) => (.error f, { d with machine }, s)
  | (.ok outcome, machine) =>
    (.ok (.performed outcome), { d with machine }, Console.note s (.performed outcome.command))

/-- A command that cannot be performed leaves the debugger as it is. -/
theorem execute_eq (d : Debugger) (s : σ) :
    d.execute s =
      match d.machine.step with
      | .error f => (.error f, d, s)
      | .ok (outcome, machine) =>
        (.ok (.performed outcome), { d with machine },
          Console.note s (.performed outcome.command)) := by
  rw [execute, Machine.stepInPlace_eq]
  cases d.machine.step <;> rfl

/-- Records, shows, asks, and performs one command. -/
def step (d : Debugger) (s : σ) : Except Fault StepResult × Debugger × σ :=
  match d.enter s with
  | (.faulted f, d, s) => (.error f, d, s)
  | (.exited, d, s) => (.ok .exited, d, s)
  | (.ready, d, s) => d.execute s
  | (.prompting, d, s) =>
    match d.converse s with
    | (true, d, s) => d.execute s
    | (false, d, s) => (.ok .exited, d, s)

/-- How much more a debugger can record before the limit, counting a snapshot
twice and one that is to be used again once. -/
def room (d : Debugger) : Nat :=
  2 * (d.settings.instructionLimit + 1 - d.history.size) + d.resuming.toNat

theorem draw_keeps {d d' : Debugger} {s s' : σ} {opening : Opening}
    (h : d.draw s = (opening, d', s')) : d'.room = d.room ∧ Follows d s d' s' := by
  unfold draw at h
  simp only at h
  split at h <;> cases h
  · exact ⟨rfl, rfl, Console.pending_display _ _⟩
  · exact ⟨rfl, rfl, Nat.le_trans (Console.pending_pause _ _) (Console.pending_display _ _)⟩

theorem present_keeps {d d' : Debugger} {s s' : σ} {opening : Opening}
    (h : d.present s = (opening, d', s')) : d'.room = d.room ∧ Follows d s d' s' := by
  unfold present at h
  split at h
  · split at h
    · exact draw_keeps h
    · exact draw_keeps h
    · split at h
      · have drawn := draw_keeps h
        exact ⟨drawn.1, drawn.2.settings,
          Nat.le_trans drawn.2.pending (Console.pending_note _ _)⟩
      · cases h
        exact ⟨rfl, .refl d s⟩
    · cases h
      exact ⟨rfl, .refl d s⟩
    · cases h
      exact ⟨rfl, .refl d s⟩
  · cases h
    exact ⟨rfl, .refl d s⟩

theorem record_uses_room {d d' : Debugger} {s s' : σ} (fresh : d.resuming = false)
    (h : d.record s = (.ok (), d', s')) : d'.room < d.room ∧ Follows d s d' s' := by
  unfold record at h
  split at h
  · cases h
  · simp only at h
    split at h
    · cases h
    · rename_i within
      cases h
      simp only [Array.size_push, Nat.not_lt] at within
      refine ⟨?_, rfl, Nat.le_refl _⟩
      simp only [room, Array.size_push, fresh, Bool.toNat_false]
      omega

/-- An opening that goes on has used up room. -/
theorem enter_uses_room {d d' : Debugger} {s s' : σ} {opening : Opening}
    (h : d.enter s = (opening, d', s')) (on : opening = .ready ∨ opening = .prompting) :
    d'.room < d.room ∧ Follows d s d' s' := by
  unfold enter at h
  split at h
  · cases h
    simp at on
  · split at h
    · rename_i again
      have shown := present_keeps h
      refine ⟨?_, shown.2.settings, shown.2.pending⟩
      rw [shown.1]
      simp [room, again]
    · rename_i notAgain
      split at h
      · cases h
        simp at on
      · rename_i d₁ s₁ recorded
        have used := record_uses_room (by simpa using notAgain) recorded
        have shown := present_keeps h
        exact ⟨shown.1 ▸ used.1, used.2.trans shown.2⟩

theorem execute_keeps {d d' : Debugger} {s s' : σ} {result : Except Fault StepResult}
    (h : d.execute s = (result, d', s')) : d'.room = d.room ∧ Follows d s d' s' := by
  rw [execute_eq] at h
  split at h <;> cases h
  · exact ⟨rfl, .refl d s⟩
  · exact ⟨rfl, rfl, Console.pending_note _ _⟩

/-- A step that performs a command has read a line or used up room. -/
theorem step_follows {d d' : Debugger} {s s' : σ} {outcome : Outcome}
    (h : d.step s = (.ok (.performed outcome), d', s')) :
    Follows d s d' s' ∧ (Console.pending s' < Console.pending s ∨ d'.room < d.room) := by
  unfold step at h
  split at h <;> rename_i entered
  · cases h
  · cases h
  · have opened := enter_uses_room entered (.inl rfl)
    have done := execute_keeps h
    exact ⟨opened.2.trans done.2, .inr (done.1 ▸ opened.1)⟩
  · have opened := enter_uses_room entered (.inr rfl)
    split at h <;> rename_i conversed
    · have talked := converse_follows conversed
      have done := execute_keeps h
      have read := talked.2 rfl
      have before := opened.2.pending
      have after := done.2.pending
      exact ⟨(opened.2.trans talked.1).trans done.2, .inl (by omega)⟩
    · cases h

/-- A bound on the commands that a run can still perform: the room in the history, and
all of it anew for each line that may be read. -/
def budget (d : Debugger) (s : σ) : Nat :=
  Console.pending s * (2 * d.settings.instructionLimit + 4) + d.room

theorem room_lt (d : Debugger) : d.room < 2 * d.settings.instructionLimit + 4 := by
  have := Bool.toNat_le d.resuming
  unfold room
  omega

theorem budget_decreases {d d' : Debugger} {s s' : σ} {outcome : Outcome}
    (h : d.step s = (.ok (.performed outcome), d', s')) : d'.budget s' < d.budget s := by
  obtain ⟨kept, less⟩ := step_follows h
  unfold budget
  have bound := room_lt d'
  rw [kept.settings] at bound ⊢
  rcases Nat.lt_or_ge (Console.pending s') (Console.pending s) with read | same
  · have whole := Nat.mul_le_mul_right (2 * d.settings.instructionLimit + 4) (Nat.succ_le_of_lt read)
    rw [Nat.succ_mul] at whole
    omega
  · have same := Nat.le_antisymm kept.pending same
    rw [same] at less ⊢
    omega

/-- Steps until the program halts or the operator ends the session. -/
def run (d : Debugger) (s : σ) : Except Fault SessionEnd × Debugger × σ :=
  if d.machine.isHalted then (.ok .halted, d, s)
  else
    match h : d.step s with
    | (.error f, d', s') => (.error f, d', s')
    | (.ok .exited, d', s') => (.ok .exited, d', s')
    | (.ok (.performed _), d', s') =>
      have := budget_decreases h
      d'.run s'
termination_by d.budget s

end Debugger

end RegisterMachine
