import RegisterMachine.Proofs.Debug.Events
import RegisterMachine.Proofs.Debug.Termination
import RegisterMachine.Proofs.Debug.Timeline

/-!
# Breakpoints

A breakpoint silences the steps of a debugger up to the first that is about to perform the
command on its line, and is used up there.

* `bareStep`: a step that shows nothing and asks nobody; `step_eq_bareStep` says where a step
  is that.
* `Reaches`: a step opens with the pointer on the line.  `step_armed`: a step of an armed
  debugger that does not reach the line is bare.  `step_reached`: one that does is the step
  of the debugger without the breakpoint.
* `steps_armed`, `steps_untouched`, `steps_quiet`: what any number of steps before that keep.
* `Stalled`: a debugger that performs no further command on the way to its line, and so does
  not get there.
* `breakpoint_fires`: the console is touched first by the step that first reaches the line.
-/

namespace RegisterMachine

/-- Whether a call shows something, asks for a line or waits. -/
def Call.touches : Call → Bool
  | .noted _ => false
  | .shown _ | .read _ | .paused _ => true

/-- Whether anything was shown, asked for or waited for. -/
def Transcribed.touched {σ : Type} (t : Transcribed σ) : Bool := t.calls.any Call.touches

namespace Debugger

variable {σ τ : Type} [Console σ] [Console τ]

/-! ## Steps that show nothing -/

/-- A step opens, or there is no command to record, or no room for it. -/
theorem opens_or_fails (d : Debugger) :
    (∃ d₁, Opens d d₁) ∨ d.resuming = false ∧
      ((∃ f, d.machine.snapshot = .error f) ∨
        ∃ h, d.machine.snapshot = .ok h ∧ d.settings.instructionLimit ≤ d.history.size) := by
  cases resuming : d.resuming with
  | true => exact .inl ⟨_, .again resuming⟩
  | false =>
    cases taken : d.machine.snapshot with
    | error f => exact .inr ⟨rfl, .inl ⟨f, rfl⟩⟩
    | ok h =>
      rcases Nat.lt_or_ge d.history.size d.settings.instructionLimit with room | full
      · exact .inl ⟨_, .anew resuming taken room⟩
      · exact .inr ⟨rfl, .inr ⟨h, rfl, full⟩⟩

theorem record_of_missing {d : Debugger} {f : Fault} (missing : d.machine.snapshot = .error f)
    (s : σ) : d.record s = (.error f, d, s) := by
  simp only [record, missing]

theorem record_of_full {d : Debugger} {h : Snapshot} (taken : d.machine.snapshot = .ok h)
    (full : d.settings.instructionLimit ≤ d.history.size) (s : σ) :
    d.record s = (.error (.limitExceeded d.settings.instructionLimit),
      { d with history := d.history.push h },
      Console.note s (.historyExceeded d.settings.instructionLimit)) := by
  have beyond : d.settings.instructionLimit < d.history.size + 1 := by omega
  simp only [record, taken, Array.size_push, beyond, if_true]

theorem record_of_room {d : Debugger} {h : Snapshot} (taken : d.machine.snapshot = .ok h)
    (room : d.history.size < d.settings.instructionLimit) (s : σ) :
    d.record s = (.ok (), { d with history := d.history.push h }, s) := by
  have within : ¬ d.settings.instructionLimit < d.history.size + 1 := by omega
  simp only [record, taken, Array.size_push, within, if_false]

/-- Records, unless a rollback has done so, and performs one command. -/
def bareStep (d : Debugger) (s : σ) : Except Fault StepResult × Debugger × σ :=
  if d.resuming then { d with resuming := false }.execute s
  else
    match d.record s with
    | (.error f, d, s) => (.error f, d, s)
    | (.ok (), d, s) => d.execute s

theorem bareStep_of_missing {d : Debugger} {f : Fault} (fresh : d.resuming = false)
    (missing : d.machine.snapshot = .error f) (s : σ) : d.bareStep s = (.error f, d, s) := by
  simp [bareStep, fresh, record_of_missing missing]

theorem bareStep_of_full {d : Debugger} {h : Snapshot} (fresh : d.resuming = false)
    (taken : d.machine.snapshot = .ok h)
    (full : d.settings.instructionLimit ≤ d.history.size) (s : σ) :
    d.bareStep s = (.error (.limitExceeded d.settings.instructionLimit),
      { d with history := d.history.push h },
      Console.note s (.historyExceeded d.settings.instructionLimit)) := by
  simp [bareStep, fresh, record_of_full taken full]

theorem bareStep_of_opens {d d₁ : Debugger} (opened : Opens d d₁) (s : σ) :
    d.bareStep s = d₁.execute s := by
  cases opened with
  | again resuming => simp [bareStep, resuming]
  | anew fresh taken room => simp [bareStep, fresh, record_of_room taken room]

/-- A step that opens shows the frame next, if one is due. -/
theorem enter_of_opens {d d₁ : Debugger} (live : d.phase ≠ .terminated) (opened : Opens d d₁)
    (s : σ) : d.enter s = d₁.present s := by
  cases opened with
  | again resuming => simp [enter, live, resuming]
  | anew fresh taken room => simp [enter, live, fresh, record_of_room taken room]

/-- No frame is due: none are wanted, or there is a breakpoint elsewhere. -/
def Undue (d : Debugger) : Prop :=
  d.settings.renders = false ∨
    ∃ line, d.phase = .suspendedUntil line ∧ d.machine.instructionPointer ≠ line

theorem Undue.present {d : Debugger} (undue : d.Undue) (s : σ) :
    d.present s = (.ready, d, s) := by
  unfold Debugger.present
  rcases undue with silent | ⟨line, armed, elsewhere⟩
  · rw [if_neg (by simp [silent])]
  · simp only [armed, elsewhere, if_false, ite_self]

/-- Where no frame is due once the step has opened, it is bare. -/
theorem step_eq_bareStep {d : Debugger} (live : d.phase ≠ .terminated)
    (undue : ∀ {d₁ : Debugger}, Opens d d₁ → d₁.Undue) (s : σ) : d.step s = d.bareStep s := by
  rcases opens_or_fails d with ⟨d₁, opened⟩ | ⟨fresh, ⟨f, missing⟩ | ⟨h, taken, full⟩⟩
  · have entered := (enter_of_opens live opened s).trans ((undue opened).present s)
    simp only [step, entered, bareStep_of_opens opened]
  · rw [bareStep_of_missing fresh missing]
    simp [step, enter, live, fresh, record_of_missing missing]
  · rw [bareStep_of_full fresh taken full]
    simp [step, enter, live, fresh, record_of_full taken full]

/-- Apart from the limit, the settings do not matter for a bare step, nor does the console. -/
theorem bareStep_settings (d : Debugger) {settings : Settings}
    (limit : settings.instructionLimit = d.settings.instructionLimit) (s : σ) (t : τ) :
    ∃ t', { d with settings }.bareStep t =
      ((d.bareStep s).1, { (d.bareStep s).2.1 with settings }, t') := by
  have executed (d₁ : Debugger) : ∃ t', { d₁ with settings }.execute t =
      ((d₁.execute s).1, { (d₁.execute s).2.1 with settings }, t') := by
    simp only [execute_eq]
    cases d₁.machine.step with
    | error f => exact ⟨_, rfl⟩
    | ok taken => exact ⟨_, rfl⟩
  rcases opens_or_fails d with ⟨d₁, opened⟩ | ⟨fresh, ⟨f, missing⟩ | ⟨h, taken, full⟩⟩
  · have opened' : Opens { d with settings } { d₁ with settings } := by
      cases opened with
      | again resuming => exact .again resuming
      | anew fresh taken room => exact .anew fresh taken (limit ▸ room)
    rw [bareStep_of_opens opened, bareStep_of_opens opened']
    exact executed d₁
  · rw [bareStep_of_missing fresh missing,
      bareStep_of_missing (d := { d with settings }) fresh missing]
    exact ⟨_, rfl⟩
  · rw [bareStep_of_full fresh taken full,
      bareStep_of_full (d := { d with settings }) fresh taken (limit ▸ full), limit]
    exact ⟨_, rfl⟩

/-- A bare step leaves the phase and the settings alone. -/
theorem bareStep_keeps (d : Debugger) (s : σ) :
    (d.bareStep s).2.1.phase = d.phase ∧ (d.bareStep s).2.1.settings = d.settings := by
  rcases opens_or_fails d with ⟨d₁, opened⟩ | ⟨fresh, ⟨f, missing⟩ | ⟨h, taken, full⟩⟩
  · obtain ⟨machine, same⟩ := execute_machine d₁ s
    rw [bareStep_of_opens opened, same]
    exact ⟨opened.keeps.1, opened.keeps.2.1⟩
  · rw [bareStep_of_missing fresh missing]
    exact ⟨rfl, rfl⟩
  · rw [bareStep_of_full fresh taken full]
    exact ⟨rfl, rfl⟩

theorem touched_note (t : Transcribed σ) (record : Record) :
    (Console.note t record).touched = t.touched := by
  simp [Transcribed.touched, Call.touches]

/-- A bare step does nothing to the console but note records. -/
theorem bareStep_touched (d : Debugger) (t : Transcribed σ) :
    (d.bareStep t).2.2.touched = t.touched := by
  rcases opens_or_fails d with ⟨d₁, opened⟩ | ⟨fresh, ⟨f, missing⟩ | ⟨h, taken, full⟩⟩
  · rw [bareStep_of_opens opened]
    rw [execute_eq]
    cases d₁.machine.step with
    | error f => rfl
    | ok taken => exact touched_note t _
  · rw [bareStep_of_missing fresh missing]
  · rw [bareStep_of_full fresh taken full]
    exact touched_note t _

/-! ## Reaching the line -/

/-- A step opens with the pointer on the line. -/
def Reaches (d : Debugger) (line : Nat) : Prop :=
  (∃ d₁, Opens d d₁) ∧ d.machine.instructionPointer = line

section Step

variable {d d₁ : Debugger} {line : Nat}

theorem Opens.machine_eq (opened : Opens d d₁) : d₁.machine = d.machine := by
  cases opened <;> rfl

theorem Opens.rephase (opened : Opens d d₁) (phase : Phase) :
    Opens { d with phase } { d₁ with phase } := by
  cases opened with
  | again resuming => exact .again resuming
  | anew fresh taken room => exact .anew fresh taken room

/-- A step of an armed debugger that does not reach the line is bare. -/
theorem step_armed (armed : d.phase = .suspendedUntil line) (unreached : ¬ d.Reaches line)
    (s : σ) : d.step s = d.bareStep s := by
  refine step_eq_bareStep (by simp [armed]) ?_ s
  intro d₁ opened
  refine .inr ⟨line, opened.keeps.1.trans armed, fun there => unreached ⟨⟨d₁, opened⟩, ?_⟩⟩
  rw [← opened.machine_eq]
  exact there

/-- On the line the frame is shown, and the breakpoint is gone. -/
theorem present_reached (armed : d.phase = .suspendedUntil line)
    (renders : d.settings.renders = true) (there : d.machine.instructionPointer = line) (s : σ) :
    d.present s = { d with phase := .running }.draw (Console.note s (.breakpointHit line)) := by
  simp only [present, renders, armed, there, if_true]

theorem enter_reached (armed : d.phase = .suspendedUntil line)
    (renders : d.settings.renders = true) (opened : Opens d d₁)
    (there : d.machine.instructionPointer = line) (s : σ) :
    d.enter s = { d₁ with phase := .running }.draw (Console.note s (.breakpointHit line)) := by
  obtain ⟨phase, settings, -, -⟩ := opened.keeps
  rw [enter_of_opens (by simp [armed]) opened]
  exact present_reached (phase.trans armed) (settings ▸ renders) (opened.machine_eq ▸ there) s

/-- A step of an armed debugger that reaches the line is the step of the debugger without the
breakpoint. -/
theorem step_reached (armed : d.phase = .suspendedUntil line)
    (renders : d.settings.renders = true) (reached : d.Reaches line) (s : σ) :
    d.step s = { d with phase := .running }.step (Console.note s (.breakpointHit line)) := by
  obtain ⟨⟨d₁, opened⟩, there⟩ := reached
  have running : { d with phase := .running }.enter (Console.note s (.breakpointHit line)) =
      { d₁ with phase := .running }.draw (Console.note s (.breakpointHit line)) := by
    rw [enter_of_opens (by simp) (opened.rephase .running)]
    simp only [present, opened.keeps.2.1, renders, if_true]
  simp only [step, enter_reached armed renders opened there, running]

/-- Unless an operator is asked, the breakpoint is gone after the step as well. -/
theorem step_reached_phase (armed : d.phase = .suspendedUntil line)
    (renders : d.settings.renders = true) (reached : d.Reaches line)
    (unattended : d.settings.interactive = false) (s : σ) : (d.step s).2.1.phase = .running := by
  obtain ⟨⟨d₁, opened⟩, there⟩ := reached
  have entered := enter_reached armed renders opened there s
  have unattended : d₁.settings.interactive = false := opened.keeps.2.1 ▸ unattended
  simp only [draw, unattended, Bool.false_eq_true, if_false] at entered
  obtain ⟨machine, same⟩ := execute_machine { d₁ with phase := .running }
    (Console.pause (Console.display (Console.note s (.breakpointHit line))
      { d₁ with phase := .running }.frame) d₁.delay)
  simp only [step, entered, same]

/-- What a step does to its console begins with what its opening does. -/
theorem step_calls_enter (d : Debugger) (t : Transcribed σ) :
    ∃ rest, (d.step t).2.2.calls = (d.enter t).2.2.calls ++ rest := by
  rw [step_calls, enter_calls, stepEvents, List.filterMap_append, ← List.append_assoc]
  exact ⟨_, rfl⟩

theorem step_reached_touched (armed : d.phase = .suspendedUntil line)
    (renders : d.settings.renders = true) (reached : d.Reaches line) (t : Transcribed σ) :
    (d.step t).2.2.touched = true := by
  obtain ⟨⟨d₁, opened⟩, there⟩ := reached
  obtain ⟨rest, calls⟩ := step_calls_enter d t
  have shown : (d.enter t).2.2.touched = true := by
    rw [enter_reached armed renders opened there, draw]
    simp only
    split <;> simp [Transcribed.touched, Call.touches]
  rw [Transcribed.touched] at shown
  rw [Transcribed.touched, calls, List.any_append, shown, Bool.true_or]

end Step

/-! ## Several steps -/

theorem steps_succ (d : Debugger) (n : Nat) (s : σ) :
    d.steps (n + 1) s =
      ((d.steps n s).1 ++ [((d.steps n s).2.1.step (d.steps n s).2.2).1],
        ((d.steps n s).2.1.step (d.steps n s).2.2).2) := by
  induction n generalizing d s with
  | zero => rfl
  | succ n ih =>
    have unrolled (n : Nat) : d.steps (n + 1) s =
        ((d.step s).1 :: ((d.step s).2.1.steps n (d.step s).2.2).1,
          ((d.step s).2.1.steps n (d.step s).2.2).2) := rfl
    rw [unrolled (n + 1), ih (d.step s).2.1, unrolled n]
    rfl

theorem steps_reachable (d : Debugger) (n : Nat) (s : σ) : Reachable d (d.steps n s).2.1 := by
  induction n with
  | zero => exact .refl
  | succ n ih =>
    rw [steps_succ]
    exact ih.tail (.step _)

/-- A console that has been touched stays so. -/
theorem touched_steps (d : Debugger) (t : Transcribed σ) {n m : Nat} (le : n ≤ m)
    (touched : (d.steps n t).2.2.touched = true) : (d.steps m t).2.2.touched = true := by
  induction le with
  | refl => exact touched
  | @step m _ ih =>
    rw [Transcribed.touched] at ih
    rw [steps_succ, Transcribed.touched, step_calls, List.any_append, ih, Bool.true_or]

section Run

variable {d : Debugger} {line : Nat}

/-- As long as the line is not reached, the breakpoint stands. -/
theorem steps_armed (armed : d.phase = .suspendedUntil line) {n : Nat} {s : σ}
    (unreached : ∀ k < n, ¬ (d.steps k s).2.1.Reaches line) :
    (d.steps n s).2.1.phase = .suspendedUntil line ∧
      (d.steps n s).2.1.settings = d.settings := by
  induction n with
  | zero => exact ⟨armed, rfl⟩
  | succ n ih =>
    obtain ⟨armed, settings⟩ := ih fun k lt => unreached k (Nat.lt_succ_of_lt lt)
    rw [steps_succ, step_armed armed (unreached n (Nat.lt_succ_self n))]
    obtain ⟨phase, same⟩ := bareStep_keeps (d.steps n s).2.1 (d.steps n s).2.2
    exact ⟨phase.trans armed, same.trans settings⟩

/-- As long as the line is not reached, the console is not touched. -/
theorem steps_untouched (armed : d.phase = .suspendedUntil line) {n : Nat} {t : Transcribed σ}
    (unreached : ∀ k < n, ¬ (d.steps k t).2.1.Reaches line) :
    (d.steps n t).2.2.touched = t.touched := by
  induction n with
  | zero => rfl
  | succ n ih =>
    have before : ∀ k < n, ¬ (d.steps k t).2.1.Reaches line :=
      fun k lt => unreached k (Nat.lt_succ_of_lt lt)
    have armed := (steps_armed armed before).1
    rw [steps_succ, step_armed armed (unreached n (Nat.lt_succ_self n)), bareStep_touched]
    exact ih before

/-- As long as the line is not reached, all goes as without frames. -/
theorem steps_quiet (armed : d.phase = .suspendedUntil line) {n : Nat} {s : σ}
    (unreached : ∀ k < n, ¬ (d.steps k s).2.1.Reaches line) {quiet : Settings}
    (silent : quiet.renders = false)
    (limit : quiet.instructionLimit = d.settings.instructionLimit) (t : τ) :
    ∃ t', { d with settings := quiet }.steps n t =
      ((d.steps n s).1, { (d.steps n s).2.1 with settings := quiet }, t') := by
  induction n with
  | zero => exact ⟨t, rfl⟩
  | succ n ih =>
    have before : ∀ k < n, ¬ (d.steps k s).2.1.Reaches line :=
      fun k lt => unreached k (Nat.lt_succ_of_lt lt)
    obtain ⟨t₁, same⟩ := ih before
    obtain ⟨armed, settings⟩ := steps_armed armed before
    have bare (t : τ) : { (d.steps n s).2.1 with settings := quiet }.step t =
        { (d.steps n s).2.1 with settings := quiet }.bareStep t := by
      refine step_eq_bareStep (by simp [armed]) ?_ t
      intro d₁ opened
      exact .inl (opened.keeps.2.1 ▸ silent)
    obtain ⟨t₂, stepped⟩ :=
      bareStep_settings (d.steps n s).2.1 (limit.trans (settings ▸ rfl)) (d.steps n s).2.2 t₁
    rw [steps_succ, steps_succ, same, step_armed armed (unreached n (Nat.lt_succ_self n)), bare,
      stepped]
    exact ⟨t₂, rfl⟩

end Run

/-! ## Breakpoints that are never reached -/

/-- The debugger waits for a line and performs no further command on the way: the history is
full, or there is no command at the pointer, or the one there fails and is not the one waited
for. -/
structure Stalled (line : Nat) (d : Debugger) : Prop where
  armed : d.phase = .suspendedUntil line
  fresh : d.resuming = false
  stuck : d.settings.instructionLimit ≤ d.history.size ∨ (∃ f, d.machine.snapshot = .error f) ∨
    d.machine.instructionPointer ≠ line ∧ ∃ f, d.machine.step = .error f

section Stalled

variable {m₀ : Machine} {d d₁ : Debugger} {line : Nat}

/-- A step of a stalled debugger that opens fails on its command. -/
theorem Stalled.opens (stalled : Stalled line d) (opened : Opens d d₁) :
    d.machine.instructionPointer ≠ line ∧ ∃ f, d.machine.step = .error f := by
  cases opened with
  | again resuming =>
    rw [stalled.fresh] at resuming
    cases resuming
  | anew _ taken room =>
    rcases stalled.stuck with full | ⟨f, missing⟩ | failing
    · omega
    · rw [missing] at taken
      cases taken
    · exact failing

theorem Stalled.unreached (stalled : Stalled line d) : ¬ d.Reaches line := by
  rintro ⟨⟨d₁, opened⟩, there⟩
  exact (stalled.opens opened).1 there

/-- A step that fails leaves the debugger stalled, unless it has reached the line. -/
theorem Stalled.of_error (armed : d.phase = .suspendedUntil line) (unreached : ¬ d.Reaches line)
    {s : σ} {f : Fault} (failed : (d.step s).1 = .error f) : Stalled line (d.step s).2.1 := by
  rw [step_armed armed unreached] at failed ⊢
  rcases opens_or_fails d with ⟨d₁, opened⟩ | ⟨fresh, ⟨f', missing⟩ | ⟨h, taken, full⟩⟩
  · obtain ⟨phase, -, -, fresh⟩ := opened.keeps
    have elsewhere : d₁.machine.instructionPointer ≠ line := by
      rw [opened.machine_eq]
      exact fun there => unreached ⟨⟨d₁, opened⟩, there⟩
    rw [bareStep_of_opens opened] at failed ⊢
    cases stepped : d₁.machine.step with
    | error f' =>
      simp only [execute_eq, stepped]
      exact ⟨phase.trans armed, fresh, .inr (.inr ⟨elsewhere, f', stepped⟩)⟩
    | ok taken => simp [execute_eq, stepped] at failed
  · rw [bareStep_of_missing fresh missing]
    exact ⟨armed, fresh, .inr (.inl ⟨f', missing⟩)⟩
  · rw [bareStep_of_full fresh taken full]
    refine ⟨armed, fresh, .inl ?_⟩
    simp only [Array.size_push]
    omega

/-- A stalled debugger fails in every step, and so stays stalled. -/
theorem Stalled.step (stalled : Stalled line d) (s : σ) : Stalled line (d.step s).2.1 := by
  have failed : ∃ f, (d.step s).1 = .error f := by
    rw [step_armed stalled.armed stalled.unreached]
    rcases opens_or_fails d with ⟨d₁, opened⟩ | ⟨fresh, ⟨f, missing⟩ | ⟨h, taken, full⟩⟩
    · obtain ⟨f, failing⟩ := (stalled.opens opened).2
      rw [← opened.machine_eq] at failing
      rw [bareStep_of_opens opened]
      exact ⟨f, by simp only [execute_eq, failing]⟩
    · exact ⟨f, by rw [bareStep_of_missing fresh missing]⟩
    · exact ⟨_, by rw [bareStep_of_full fresh taken full]⟩
  obtain ⟨f, failed⟩ := failed
  exact .of_error stalled.armed stalled.unreached failed

theorem Stalled.steps {n m : Nat} {s : σ} (stalled : Stalled line (d.steps n s).2.1)
    (le : n ≤ m) : Stalled line (d.steps m s).2.1 := by
  induction le with
  | refl => exact stalled
  | step _ ih =>
    rw [steps_succ]
    exact ih.step _

/-- A machine that has halted opens no step. -/
theorem Timeline.opens_running (timeline : Timeline m₀ d) (opened : Opens d d₁) :
    d.machine.isHalted = false := by
  obtain ⟨timeline, pending⟩ := timeline.opens opened
  obtain ⟨h, -, taken⟩ := pending.snapshot timeline
  rw [← opened.machine_eq]
  exact Machine.isHalted_of_snapshot taken

theorem Stalled.of_halted (timeline : Timeline m₀ d) (armed : d.phase = .suspendedUntil line)
    (halted : d.machine.isHalted = true) : Stalled line d := by
  rcases opens_or_fails d with ⟨d₁, opened⟩ | ⟨fresh, missing | ⟨h, -, full⟩⟩
  · rw [timeline.opens_running opened] at halted
    cases halted
  · exact ⟨armed, fresh, .inr (.inl missing)⟩
  · exact ⟨armed, fresh, .inl full⟩

/-- Line zero is reached by no step. -/
theorem Timeline.unreached_zero (timeline : Timeline m₀ d) : ¬ d.Reaches 0 := by
  rintro ⟨⟨d₁, opened⟩, there⟩
  have running := timeline.opens_running opened
  rw [Machine.isHalted_iff.mpr there] at running
  cases running

/-- Once the steps have halted the machine or failed without reaching the line, none reaches
it. -/
theorem steps_unreached {s : σ} (timeline : ∀ n, Timeline m₀ (d.steps n s).2.1)
    (armed : d.phase = .suspendedUntil line) {n : Nat}
    (unreached : ∀ k < n, ¬ (d.steps k s).2.1.Reaches line)
    (done : (d.steps n s).2.1.machine.isHalted = true ∨
      ∃ f, (d.steps n s).1.getLast? = some (.error f)) (k : Nat) :
    ¬ (d.steps k s).2.1.Reaches line := by
  have stalled : Stalled line (d.steps n s).2.1 := by
    rcases done with halted | ⟨f, failed⟩
    · exact .of_halted (timeline n) (steps_armed armed unreached).1 halted
    · cases n with
      | zero => cases failed
      | succ n =>
        have before : ∀ k < n, ¬ (d.steps k s).2.1.Reaches line :=
          fun k lt => unreached k (Nat.lt_succ_of_lt lt)
        simp only [steps_succ, List.getLast?_append, List.getLast?_singleton, Option.some_or,
          Option.some.injEq] at failed
        rw [steps_succ]
        exact .of_error (steps_armed armed before).1 (unreached n (Nat.lt_succ_self n)) failed
  rcases Nat.lt_or_ge k n with earlier | later
  · exact unreached k earlier
  · exact (stalled.steps later).unreached

end Stalled

/-! ## Where the console is touched -/

/-- A debugger that waits for a line touches its console first in the step that first opens
on that line, and makes this step as if it had not waited.  Up to there it waits on, and does
what it would do if it showed no frames.  If it halts, faults or exceeds its limit before, or
waits for line zero, it never touches the console. -/
theorem breakpoint_fires {m₀ : Machine} {settings : Settings} {d₀ d : Debugger} {line : Nat}
    (created : create m₀ settings = .ok d₀) (reachable : Reachable d₀ d)
    (renders : d.settings.renders = true) (armed : d.phase = .suspendedUntil line) (s : σ) :
    let after := fun n => d.steps n (Transcribed.start s)
    (∀ n, d.steps n s = ((after n).1, (after n).2.1, (after n).2.2.console)) ∧
    (∀ n, (after n).2.2.touched = true ↔ ∃ k < n, (after k).2.1.Reaches line) ∧
    (∀ n, (∀ k < n, ¬ (after k).2.1.Reaches line) →
      (after n).2.1.phase = .suspendedUntil line ∧
      (∀ {τ : Type} [Console τ] (quiet : Settings) (t : τ), quiet.renders = false →
        quiet.instructionLimit = d.settings.instructionLimit →
        ∃ t', { d with settings := quiet }.steps n t =
          ((after n).1, { (after n).2.1 with settings := quiet }, t')) ∧
      ((after n).2.1.Reaches line → ∀ {τ : Type} [Console τ] (t : τ),
        (after n).2.1.step t =
          { (after n).2.1 with phase := .running }.step (Console.note t (.breakpointHit line)) ∧
        (d.settings.interactive = false → ((after n).2.1.step t).2.1.phase = .running)) ∧
      ((after n).2.1.machine.isHalted = true ∨ (∃ f, (after n).1.getLast? = some (.error f)) →
        ∀ m, (after m).2.2.touched = false)) ∧
    (line = 0 → ∀ n, (after n).2.2.touched = false) := by
  intro after
  have timeline (n : Nat) : Timeline m₀ (after n).2.1 := by
    have onward : Reachable d₀ (after n).2.1 := reachable.trans (steps_reachable d n _)
    exact onward.induct Timeline.transition Timeline.handles (Timeline.initial created)
  have untouched {n : Nat} (unreached : ∀ k < n, ¬ (after k).2.1.Reaches line) :
      (after n).2.2.touched = false := steps_untouched armed unreached
  refine ⟨fun n => ?_, fun n => ⟨fun touched => ?_, ?_⟩, fun n unreached => ?_, ?_⟩
  · have agree := steps_agree Transcribed.simulates (t := Transcribed.start s) rfl d n
    exact Transcribed.eq_of_agree agree
  · by_contra never
    rw [untouched fun k lt reached => never ⟨k, lt, reached⟩] at touched
    cases touched
  · -- The first of the steps that reach the line is made by a debugger that still waits.
    rintro ⟨k, lt, reached⟩
    induction k using Nat.strongRecOn with
    | ind k ih =>
      by_cases earlier : ∃ j < k, (after j).2.1.Reaches line
      · obtain ⟨j, before, reached⟩ := earlier
        exact ih j before (Nat.lt_trans before lt) reached
      · have unreached : ∀ j < k, ¬ (after j).2.1.Reaches line :=
          fun j before reached => earlier ⟨j, before, reached⟩
        obtain ⟨armed, settings⟩ := steps_armed armed unreached
        refine touched_steps d _ lt ?_
        rw [steps_succ]
        exact step_reached_touched armed (settings ▸ renders) reached _
  · obtain ⟨waiting, same⟩ := steps_armed armed unreached
    refine ⟨waiting, fun quiet t silent limit => steps_quiet armed unreached silent limit t,
      fun reached τ _ t => ?_, fun done m => ?_⟩
    · have renders : (after n).2.1.settings.renders = true := same ▸ renders
      refine ⟨step_reached waiting renders reached t, fun unattended => ?_⟩
      exact step_reached_phase waiting renders reached (same ▸ unattended) t
    · exact untouched fun k _ => steps_unreached timeline armed unreached done k
  · rintro rfl n
    exact untouched fun k _ => (timeline k).unreached_zero

/-- An operator asks to be left alone until a loop is back on its first line: the step in
between is silent, and the one after it shows its frame. -/
theorem breakpoint_fires_in_loop :
    let m₀ := Machine.start ⟨[⟨.load, .immediate 1, 1⟩, ⟨.goto, .immediate 1, 2⟩]⟩ []
    let settings : Settings := { instructionLimit := 3, interactive := true }
    let d₀ : Debugger := ⟨m₀, settings, ⟨1, 0⟩, #[], .running, false⟩
    let d := (d₀.step ({ answers := [some "suspenduntil 1", some "y"] } : Script)).2.1
    let after := fun n => d.steps n (Transcribed.start ({ answers := [some ""] } : Script))
    create m₀ settings = .ok d₀ ∧ Reachable d₀ d ∧ d.settings.renders = true ∧
      d.phase = .suspendedUntil 1 ∧ ¬ (after 0).2.1.Reaches 1 ∧ (after 1).2.1.Reaches 1 ∧
      (after 1).2.1.phase = .suspendedUntil 1 ∧ (after 2).2.1.phase = .running := by
  intro m₀ settings d₀ d after
  have created : create m₀ settings = .ok d₀ := rfl
  have reachable : Reachable d₀ d := Relation.ReflTransGen.single (.step _)
  have renders : d.settings.renders = true := by decide +kernel
  have armed : d.phase = .suspendedUntil 1 := by decide +kernel
  obtain ⟨-, touched, waiting, -⟩ := breakpoint_fires created reachable renders armed
    ({ answers := [some ""] } : Script)
  have silent : ¬ (after 0).2.1.Reaches 1 := by
    intro reached
    have shown := (touched 1).mpr ⟨0, by decide, reached⟩
    exact absurd shown (by decide +kernel)
  have reached : (after 1).2.1.Reaches 1 := by
    obtain ⟨k, lt, reached⟩ := (touched 2).mp (by decide +kernel)
    rcases Nat.le_one_iff_eq_zero_or_eq_one.mp (Nat.le_of_lt_succ lt) with rfl | rfl
    · exact absurd reached silent
    · exact reached
  refine ⟨created, reachable, renders, armed, silent, reached, (waiting 1 ?_).1,
    by decide +kernel⟩
  intro k lt
  cases Nat.lt_one_iff.mp lt
  exact silent

end Debugger

end RegisterMachine
