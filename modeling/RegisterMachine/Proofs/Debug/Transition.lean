import RegisterMachine.Debug.Debugger
import RegisterMachine.Proofs.Engine.Advance

/-!
# What a step of the debugger can do

A step records, shows, asks and performs, on whatever console it is given, as long as
that bounds its lines.  This module says once what all of that can come to for the
debugger itself, so that an invariant is checked against a handful of cases and never
against the prompt loop.

* `Revisits`: the lines of a prompt that leave the operator at it go back to a
  recorded snapshot, or change nothing.  Going back twice is going back once
  (`Revisits.trans`), so this also describes a whole conversation
  (`converse_cases`).
* `handle_goes`: a line goes back, which it notes and shows, or changes nothing but the
  phase.
* `Transition`: the six things that a step can do, each with all that holds
  where it happens; `step_transition` is the inversion.
* `Exchanges`, `Begins`, `Arrives` and `step_parts` say the same of the parts of a step
  with the consoles that they leave, for what depends on those.
-/

namespace RegisterMachine

/-- The snapshot that a command goes back to. -/
def OperatorCommand.destination? : OperatorCommand → Option Nat
  | reset => some 0
  | rollback index => some index
  | _ => none

namespace Debugger

variable {σ : Type} [Console σ]

theorem create_eq_ok {machine : Machine} {settings : Settings} {d : Debugger}
    (created : create machine settings = .ok d) :
    ∃ delay, d = { machine, settings, delay, history := #[], phase := .running, resuming := false } := by
  unfold create at created
  split at created
  · cases created
  · split at created
    · cases created
    · cases created
      exact ⟨_, rfl⟩

/-! ## Going back -/

/-- The debugger that has gone back to its snapshot `h` at `index`. -/
def backTo (d : Debugger) (index : Nat) (h : Snapshot) : Debugger :=
  { d with
    history := d.history.take (index + 1)
    machine := d.machine.restore h
    resuming := true }

/-- What the lines of a prompt that do not leave it come to. -/
inductive Revisits (d : Debugger) : Debugger → Prop
  | stay : Revisits d d
  | back {index : Nat} {h : Snapshot} (recorded : d.history[index]? = some h) :
    Revisits d (d.backTo index h)

theorem getElem?_take_history (history : Array Snapshot) (size i : Nat) :
    (history.take size)[i]? = if i < size then history[i]? else none := by
  simp only [Array.take_eq_extract, Array.getElem?_extract, Nat.zero_add, Nat.sub_zero]
  grind

/-- Going back to a snapshot of a history cut short is going back in the whole of it. -/
theorem backTo_backTo {d : Debugger} {i j : Nat} {h h' : Snapshot} (le : j ≤ i) :
    (d.backTo i h).backTo j h' = d.backTo j h' := by
  have cut : (d.history.take (i + 1)).take (j + 1) = d.history.take (j + 1) := by
    simp only [Array.take_eq_extract, Array.extract_extract, Nat.zero_add]
    rw [Nat.min_eq_left (Nat.succ_le_succ le)]
  simp only [backTo, cut, Machine.restore_restore]

theorem Revisits.trans {d d' d'' : Debugger} (first : Revisits d d') (second : Revisits d' d'') :
    Revisits d d'' := by
  cases first with
  | stay => exact second
  | @back i h recorded =>
    cases second with
    | stay => exact .back recorded
    | @back j h' again =>
      change (d.history.take (i + 1))[j]? = some h' at again
      rw [getElem?_take_history] at again
      split at again
      · rename_i lt
        rw [backTo_backTo (Nat.le_of_lt_succ lt)]
        exact .back again
      · cases again

theorem Revisits.phase {d d' : Debugger} (revisited : Revisits d d') : d'.phase = d.phase := by
  cases revisited <;> rfl

/-! ## The operator's lines -/

/-- The phases in which an operator's line can leave the prompt for the pending
command. -/
inductive Resumption (d : Debugger) : Phase → Prop
  | stepping : Resumption d d.phase
  | silent : Resumption d .continuing
  | breakpoint {line : Nat} (allowed : d.checkBreakpoint line = .ok ()) :
    Resumption d (.suspendedUntil line)

/-- What an operator's line makes of the debugger, by what comes of the line. -/
inductive Handles (d : Debugger) : Except OperatorError Verdict → Debugger → Prop
  | refused (e : OperatorError) : Handles d (.error e) d
  | exit : Handles d (.ok .exit) d
  | stay {d' : Debugger} (revisited : Revisits d d') : Handles d (.ok .stay) d'
  | resume {phase : Phase} (resumed : Resumption d phase) :
    Handles d (.ok .resume) { d with phase }

/-- A rollback that is refused changes nothing, and any other goes back. -/
theorem rollback_cases {d d' : Debugger} {index : Nat} {result : Except OperatorError Unit}
    {s s' : σ} (done : d.rollback index s = (result, d', s')) :
    (∃ e, result = .error e ∧ d' = d ∧ s' = s) ∨
      ∃ h, result = .ok () ∧ d.history[index]? = some h ∧ d' = d.backTo index h := by
  unfold rollback at done
  split at done
  · cases done
    exact .inl ⟨_, rfl, rfl, rfl⟩
  · rename_i h recorded
    cases done
    exact .inr ⟨h, rfl, recorded, rfl⟩

/-- A breakpoint that is refused changes nothing. -/
theorem suspendUntil_cases {d d' : Debugger} {line : Nat} {result : Except OperatorError Unit}
    {s s' : σ} (done : d.suspendUntil line s = (result, d', s')) :
    (∃ e, result = .error e ∧ d' = d ∧ s' = s) ∨
      result = .ok () ∧ d.checkBreakpoint line = .ok () ∧
        d' = { d with phase := .suspendedUntil line } := by
  unfold suspendUntil at done
  split at done
  · cases done
    exact .inl ⟨_, rfl, rfl, rfl⟩
  · rename_i allowed
    cases done
    exact .inr ⟨rfl, allowed, rfl⟩

theorem revisit_cases {d d' : Debugger} {index : Nat} {result : Except OperatorError Reaction}
    {s s' : σ} (done : d.revisit index s = (result, d', s')) :
    (∃ e, result = .error e ∧ d' = d ∧ s' = s) ∨
      result = .ok (.verdict .stay) ∧ Revisits d d' := by
  unfold revisit at done
  split at done <;> rename_i back <;> cases done
  · rcases rollback_cases back with ⟨_, -, rfl, rfl⟩ | ⟨_, went, -⟩
    · exact .inl ⟨_, rfl, rfl, rfl⟩
    · cases went
  · rcases rollback_cases back with ⟨_, refused, -⟩ | ⟨h, -, recorded, rfl⟩
    · cases refused
    · exact .inr ⟨rfl, .back recorded⟩

/-- A command that is refused changes nothing.  One that wants no further answer does what its
verdict says, and one that does has changed nothing yet. -/
theorem react_cases {d d' : Debugger} {command : OperatorCommand}
    {result : Except OperatorError Reaction} {s s' : σ}
    (done : d.react command s = (result, d', s')) :
    (∃ e, result = .error e ∧ d' = d ∧ s' = s) ∨
    (∃ v, result = .ok (.verdict v) ∧ Handles d (.ok v) d') ∨
    (∃ line, result = .ok (.confirm line) ∧ d.checkBreakpoint line = .ok () ∧ d' = d) := by
  have revisited {index : Nat} (done : d.revisit index s = (result, d', s')) :
      (∃ e, result = .error e ∧ d' = d ∧ s' = s) ∨
        ∃ v, result = .ok (.verdict v) ∧ Handles d (.ok v) d' := by
    rcases revisit_cases done with refused | ⟨rfl, revisited⟩
    · exact .inl refused
    · exact .inr ⟨_, rfl, .stay revisited⟩
  cases command with
  | step =>
    cases done
    exact .inr (.inl ⟨_, rfl, .resume .stepping⟩)
  | help | states =>
    cases done
    exact .inr (.inl ⟨_, rfl, .stay .stay⟩)
  | exit =>
    cases done
    exact .inr (.inl ⟨_, rfl, .exit⟩)
  | proceed =>
    cases done
    exact .inr (.inl ⟨_, rfl, .resume .silent⟩)
  | reset => exact (revisited done).imp_right .inl
  | rollback index => exact (revisited done).imp_right .inl
  | suspendUntil line =>
    unfold react at done
    simp only at done
    split at done
    · cases done
      exact .inl ⟨_, rfl, rfl, rfl⟩
    · rename_i allowed
      cases done
      exact .inr (.inr ⟨line, rfl, allowed, rfl⟩)

theorem settle_handles {d d' : Debugger} {line : Nat} {answer : Option String}
    {result : Except OperatorError Verdict} {s s' : σ}
    (done : d.settle line answer s = (result, d', s')) : Handles d result d' := by
  unfold settle at done
  split at done
  · split at done <;> rename_i armed <;> cases done
    · rcases suspendUntil_cases armed with ⟨_, -, rfl, -⟩ | ⟨set, -⟩
      · exact .refused _
      · cases set
    · rcases suspendUntil_cases armed with ⟨_, refused, -⟩ | ⟨-, allowed, rfl⟩
      · cases refused
      · exact .resume (.breakpoint allowed)
  · cases done
    exact .stay .stay

/-- Every line of an operator does what `Handles` allows. -/
theorem handle_handles {d d' : Debugger} {line : String} {s s' : σ}
    {result : Except OperatorError Verdict} (done : d.handle line s = (result, d', s')) :
    Handles d result d' := by
  unfold handle begin at done
  cases parsed : OperatorCommand.parse line with
  | error e =>
    simp only [parsed] at done
    cases done
    exact .refused e
  | ok command =>
    rcases reacted : d.react command (Console.note s (.operatorCommand command.name))
      with ⟨answer, d₁, s₁⟩
    simp only [parsed, reacted] at done
    rcases react_cases reacted with
      ⟨e, rfl, rfl, -⟩ | ⟨v, rfl, handled⟩ | ⟨target, rfl, -, rfl⟩
    · cases done
      exact .refused e
    · cases done
      exact handled
    · exact settle_handles done

/-- Calls of a console, none of which notes that the run goes back. -/
inductive Quiet (s : σ) : σ → Prop
  | refl : Quiet s s
  | display {s' : σ} (before : Quiet s s') (text : String) : Quiet s (Console.display s' text)
  | ask {s' : σ} (before : Quiet s s') : Quiet s (Console.ask s').2
  | pause {s' : σ} (before : Quiet s s') (delay : Duration) : Quiet s (Console.pause s' delay)
  | note {s' : σ} (before : Quiet s s') {record : Record}
    (other : ∀ index command, record ≠ .rolledBack index command) : Quiet s (Console.note s' record)

/-- A line that goes back notes so, and shows the frame of where it has gone. -/
structure GoesBack (d : Debugger) (line : String) (s : σ) (result : Except OperatorError Verdict)
    (d' : Debugger) (s' : σ) (command : OperatorCommand) (index : Nat) (h : Snapshot) : Prop where
  parsed : OperatorCommand.parse line = .ok command
  destination : command.destination? = some index
  recorded : d.history[index]? = some h
  stays : result = .ok .stay
  debugger : d' = d.backTo index h
  console : s' = Console.display
    (Console.note (Console.note s (.operatorCommand command.name)) (.rolledBack index h.command))
    (d.backTo index h).frame

/-- A line goes back, or changes nothing but the phase. -/
theorem handle_goes {d d' : Debugger} {line : String} {s s' : σ}
    {result : Except OperatorError Verdict} (done : d.handle line s = (result, d', s')) :
    (∃ phase, d' = { d with phase } ∧ Quiet s s') ∨
      ∃ command index h, GoesBack d line s result d' s' command index h := by
  unfold handle begin at done
  cases parsed : OperatorCommand.parse line with
  | error e =>
    simp only [parsed] at done
    cases done
    exact .inl ⟨d.phase, rfl, .refl⟩
  | ok command =>
    have noted : Quiet s (Console.note s (.operatorCommand command.name)) := .note .refl (by simp)
    have revisited {index : Nat} (destination : command.destination? = some index)
        (react : d.react command (Console.note s (.operatorCommand command.name)) =
          d.revisit index (Console.note s (.operatorCommand command.name))) :
        (∃ phase, d' = { d with phase } ∧ Quiet s s') ∨
          ∃ command index h, GoesBack d line s result d' s' command index h := by
      simp only [parsed, react, revisit, rollback] at done
      cases recorded : d.history[index]? with
      | none =>
        simp only [recorded] at done
        cases done
        exact .inl ⟨d.phase, rfl, noted⟩
      | some h =>
        simp only [recorded] at done
        cases done
        exact .inr ⟨command, index, h, parsed, destination, recorded, rfl, rfl, rfl⟩
    cases command with
    | reset => exact revisited rfl rfl
    | rollback index => exact revisited rfl rfl
    | step | exit =>
      simp only [parsed, react] at done
      cases done
      exact .inl ⟨d.phase, rfl, noted⟩
    | help | states =>
      simp only [parsed, react] at done
      cases done
      exact .inl ⟨d.phase, rfl, noted.display _⟩
    | proceed =>
      simp only [parsed, react] at done
      cases done
      exact .inl ⟨.continuing, rfl, noted.note (by simp)⟩
    | suspendUntil target =>
      simp only [parsed, react] at done
      cases allowed : d.checkBreakpoint target with
      | error e =>
        simp only [allowed] at done
        cases done
        exact .inl ⟨d.phase, rfl, noted⟩
      | ok =>
        have asked := (noted.display ("suspend until line " ++ toString target ++ "? [y/N]")).ask
        simp only [allowed, settle, suspendUntil] at done
        split at done <;> cases done
        · exact .inl ⟨.suspendedUntil target, rfl, asked.note (by simp)⟩
        · exact .inl ⟨d.phase, rfl, asked.display _⟩

/-! ## Conversations -/

/-- What a conversation comes to: the operator has looked at recorded states, and then
resumed the run in a phase of their choice or ended the session. -/
inductive Converses (d : Debugger) : Bool → Debugger → Prop
  | resume {d₁ : Debugger} {phase : Phase} (revisited : Revisits d d₁)
    (resumed : Resumption d₁ phase) : Converses d true { d₁ with phase }.resume
  | terminate {d₁ : Debugger} (revisited : Revisits d d₁) : Converses d false d₁.terminate

theorem Converses.after {d d₁ d' : Debugger} {resumes : Bool} (revisited : Revisits d d₁)
    (rest : Converses d₁ resumes d') : Converses d resumes d' := by
  cases rest with
  | resume later resumed => exact .resume (revisited.trans later) resumed
  | terminate later => exact .terminate (revisited.trans later)

/-- What an exchange comes to, with the console that it leaves. -/
inductive Exchanges (d : Debugger) (s : σ) : Option Bool → Debugger → σ → Prop
  | closed {s' : σ} (asked : Console.ask s = (none, s')) :
    Exchanges d s (some false) d.terminate s'
  | resumed {line : String} {d' : Debugger} {s₁ s' : σ} (asked : Console.ask s = (some line, s₁))
    (handled : d.handle line s₁ = (.ok .resume, d', s')) : Exchanges d s (some true) d'.resume s'
  | left {line : String} {d' : Debugger} {s₁ s' : σ} (asked : Console.ask s = (some line, s₁))
    (handled : d.handle line s₁ = (.ok .exit, d', s')) : Exchanges d s (some false) d'.terminate s'
  | stayed {line : String} {d' : Debugger} {s₁ s' : σ} (asked : Console.ask s = (some line, s₁))
    (handled : d.handle line s₁ = (.ok .stay, d', s')) : Exchanges d s none d' s'
  | refused {line : String} {e : OperatorError} {d' : Debugger} {s₁ s' : σ}
    (asked : Console.ask s = (some line, s₁)) (handled : d.handle line s₁ = (.error e, d', s')) :
    Exchanges d s none d' (refuse e s')

theorem exchange_exchanges {d d' : Debugger} {s s' : σ} {settled : Option Bool}
    (done : d.exchange s = (settled, d', s')) : Exchanges d s settled d' s' := by
  unfold exchange at done
  split at done <;> rename_i asked
  · cases done
    exact .closed asked
  · split at done <;> rename_i handled <;> cases done
    · exact .resumed asked handled
    · exact .left asked handled
    · exact .stayed asked handled
    · exact .refused asked handled

/-- One exchange settles the conversation, or has only looked at a recorded state. -/
theorem exchange_cases {d d' : Debugger} {s s' : σ} {settled : Option Bool}
    (done : d.exchange s = (settled, d', s')) :
    (∃ resumes, settled = some resumes ∧ Converses d resumes d') ∨
      (settled = none ∧ Revisits d d') := by
  cases exchange_exchanges done with
  | closed => exact .inl ⟨false, rfl, .terminate .stay⟩
  | resumed _ handled =>
    cases handle_handles handled with
    | resume resumed => exact .inl ⟨true, rfl, .resume .stay resumed⟩
  | left _ handled =>
    cases handle_handles handled with
    | exit => exact .inl ⟨false, rfl, .terminate .stay⟩
  | stayed _ handled =>
    cases handle_handles handled with
    | stay revisited => exact .inr ⟨rfl, revisited⟩
  | refused _ handled =>
    cases handle_handles handled with
    | refused => exact .inr ⟨rfl, .stay⟩

/-- Whatever the operator says, a conversation looks at recorded states and then
resumes or ends the session. -/
theorem converse_cases {d d' : Debugger} {s s' : σ} {resumes : Bool}
    (done : d.converse s = (resumes, d', s')) : Converses d resumes d' := by
  fun_induction converse d s with
  | case1 d s resumes d₁ s₁ exchanged =>
    cases done
    rcases exchange_cases exchanged with ⟨resumes', same, conversed⟩ | ⟨unsettled, -⟩
    · cases same
      exact conversed
    · cases unsettled
  | case2 d s d₁ s₁ exchanged _ ih =>
    rcases exchange_cases exchanged with ⟨resumes', settled, -⟩ | ⟨-, revisited⟩
    · cases settled
    · exact (ih done).after revisited

/-! ## Steps -/

/-- A step opens by recording the present state within the limit, or by taking up the
state that a rollback brought back. -/
inductive Opens (d : Debugger) : Debugger → Prop
  | again (resuming : d.resuming = true) : Opens d { d with resuming := false }
  | anew {h : Snapshot} (fresh : d.resuming = false) (snapshot : d.machine.snapshot = .ok h)
    (room : d.history.size < d.settings.instructionLimit) :
    Opens d { d with history := d.history.push h }

/-- An opened step goes on to the command without asking, at a breakpoint that is used
up or elsewhere, or after a conversation that resumes. -/
inductive Proceeds (d : Debugger) : Debugger → Prop
  | quiet : Proceeds d d
  | arrived {line : Nat} (armed : d.phase = .suspendedUntil line)
    (there : d.machine.instructionPointer = line) : Proceeds d { d with phase := .running }
  | asked {d' : Debugger} (interactive : d.settings.interactive = true)
    (conversed : Converses { d with phase := .paused } true d') : Proceeds d d'

/-- What a step can do. -/
inductive Transition (d : Debugger) : Except Fault StepResult → Debugger → Prop
  /-- The session had ended. -/
  | ended (terminated : d.phase = .terminated) : Transition d (.ok .exited) d
  /-- There is no command to record. -/
  | missing {f : Fault} (live : d.phase ≠ .terminated) (fresh : d.resuming = false)
    (absent : d.machine.snapshot = .error f) : Transition d (.error f) d
  /-- The history outgrows the limit. -/
  | outgrown {h : Snapshot} (live : d.phase ≠ .terminated) (fresh : d.resuming = false)
    (snapshot : d.machine.snapshot = .ok h)
    (full : d.settings.instructionLimit ≤ d.history.size) :
    Transition d (.error (.limitExceeded d.settings.instructionLimit))
      { d with history := d.history.push h }
  /-- The operator ends the session. -/
  | left {d₁ d' : Debugger} (live : d.phase ≠ .terminated) (opened : Opens d d₁)
    (interactive : d₁.settings.interactive = true)
    (conversed : Converses { d₁ with phase := .paused } false d') :
    Transition d (.ok .exited) d'
  /-- The command is performed. -/
  | performed {d₁ d₂ : Debugger} {o : Outcome} {m : Machine} (live : d.phase ≠ .terminated)
    (opened : Opens d d₁) (proceeded : Proceeds d₁ d₂) (done : d₂.machine.step = .ok (o, m)) :
    Transition d (.ok (.performed o)) { d₂ with machine := m }
  /-- The command fails. -/
  | faulted {d₁ d₂ : Debugger} {f : Fault} (live : d.phase ≠ .terminated)
    (opened : Opens d d₁) (proceeded : Proceeds d₁ d₂) (failed : d₂.machine.step = .error f) :
    Transition d (.error f) d₂

theorem Opens.keeps {d d' : Debugger} (opened : Opens d d') :
    d'.phase = d.phase ∧ d'.settings = d.settings ∧ d'.delay = d.delay ∧ d'.resuming = false := by
  cases opened with
  | again => exact ⟨rfl, rfl, rfl, rfl⟩
  | anew fresh => exact ⟨rfl, rfl, rfl, fresh⟩

/-- A conversation that resumes leaves the prompt for good. -/
theorem Converses.resume_phase {d d' : Debugger} (paused : d.phase = .paused)
    (conversed : Converses d true d') : d'.phase ≠ .paused ∧ d'.phase ≠ .terminated := by
  cases conversed with
  | resume revisited resumed =>
    have here := revisited.phase.trans paused
    cases resumed with
    | stepping => simp [Debugger.resume, here]
    | silent => simp [Debugger.resume]
    | breakpoint => simp [Debugger.resume]

theorem Converses.keeps {d d' : Debugger} {resumes : Bool} (conversed : Converses d resumes d') :
    d'.settings = d.settings ∧ d'.delay = d.delay := by
  cases conversed with
  | resume revisited | terminate revisited => cases revisited <;> exact ⟨rfl, rfl⟩

theorem Proceeds.keeps {d d' : Debugger} (proceeded : Proceeds d d') :
    d'.settings = d.settings ∧ d'.delay = d.delay := by
  cases proceeded with
  | quiet | arrived => exact ⟨rfl, rfl⟩
  | asked _ conversed => exact conversed.keeps

theorem Proceeds.live {d d' : Debugger} (proceeded : Proceeds d d')
    (live : d.phase ≠ .terminated) : d'.phase ≠ .terminated := by
  cases proceeded with
  | quiet => exact live
  | arrived => simp
  | asked _ conversed => exact (conversed.resume_phase rfl).2

theorem Proceeds.fresh {d d' : Debugger} (proceeded : Proceeds d d')
    (fresh : d.resuming = false) : d'.resuming = false := by
  cases proceeded with
  | quiet => exact fresh
  | arrived => exact fresh
  | asked _ conversed =>
    cases conversed with
    | resume => rfl

theorem draw_cases {d d' : Debugger} {s s' : σ} {opening : Opening}
    (done : d.draw s = (opening, d', s')) :
    (opening = .ready ∧ d' = d) ∨
      (opening = .prompting ∧ d.settings.interactive = true ∧
        d' = { d with phase := .paused }) := by
  unfold draw at done
  simp only at done
  split at done
  · rename_i interactive
    cases done
    exact .inr ⟨rfl, interactive, rfl⟩
  · cases done
    exact .inl ⟨rfl, rfl⟩

/-- Showing the frame leads to the command or to the prompt. -/
theorem present_cases {d d' : Debugger} {s s' : σ} {opening : Opening}
    (done : d.present s = (opening, d', s')) :
    (opening = .ready ∧ Proceeds d d') ∨
      (opening = .prompting ∧ d.settings.interactive = true ∧
        d' = { d with phase := .paused }) := by
  have drawn {s₁ : σ} (done : d.draw s₁ = (opening, d', s')) :
      (opening = .ready ∧ Proceeds d d') ∨
        (opening = .prompting ∧ d.settings.interactive = true ∧
          d' = { d with phase := .paused }) := by
    rcases draw_cases done with ⟨ready, rfl⟩ | prompting
    · exact .inl ⟨ready, .quiet⟩
    · exact .inr prompting
  unfold present at done
  split at done
  · split at done
    · exact drawn done
    · exact drawn done
    · rename_i line armed
      split at done
      · rename_i there
        rcases draw_cases done with ⟨ready, rfl⟩ | ⟨prompting, interactive, rfl⟩
        · exact .inl ⟨ready, .arrived armed there⟩
        · exact .inr ⟨prompting, interactive, rfl⟩
      · cases done
        exact .inl ⟨rfl, .quiet⟩
    · cases done
      exact .inl ⟨rfl, .quiet⟩
    · cases done
      exact .inl ⟨rfl, .quiet⟩
  · cases done
    exact .inl ⟨rfl, .quiet⟩

/-- What the opening of a step leads to. -/
inductive Enters (d : Debugger) : Opening → Debugger → Prop
  | exited (terminated : d.phase = .terminated) : Enters d .exited d
  | faulted {f : Fault} {d' : Debugger} (failed : Transition d (.error f) d') :
    Enters d (.faulted f) d'
  | ready {d₁ d' : Debugger} (live : d.phase ≠ .terminated) (opened : Opens d d₁)
    (proceeded : Proceeds d₁ d') : Enters d .ready d'
  | prompting {d₁ : Debugger} (live : d.phase ≠ .terminated) (opened : Opens d d₁)
    (interactive : d₁.settings.interactive = true) :
    Enters d .prompting { d₁ with phase := .paused }

theorem present_enters {d d₁ d' : Debugger} {s s' : σ} {opening : Opening}
    (live : d.phase ≠ .terminated) (opened : Opens d d₁)
    (done : d₁.present s = (opening, d', s')) : Enters d opening d' := by
  rcases present_cases done with ⟨rfl, proceeded⟩ | ⟨rfl, interactive, rfl⟩
  · exact .ready live opened proceeded
  · exact .prompting live opened interactive

/-- What opens a step, with the console that it leaves. -/
inductive Begins (d : Debugger) (s : σ) : Opening → Debugger → σ → Prop
  | exited (terminated : d.phase = .terminated) : Begins d s .exited d s
  | missing {f : Fault} (live : d.phase ≠ .terminated) (fresh : d.resuming = false)
    (absent : d.machine.snapshot = .error f) : Begins d s (.faulted f) d s
  | outgrown {h : Snapshot} (live : d.phase ≠ .terminated) (fresh : d.resuming = false)
    (snapshot : d.machine.snapshot = .ok h)
    (full : d.settings.instructionLimit ≤ d.history.size) :
    Begins d s (.faulted (.limitExceeded d.settings.instructionLimit))
      { d with history := d.history.push h }
      (Console.note s (.historyExceeded d.settings.instructionLimit))
  | opened {d₁ d' : Debugger} {opening : Opening} {s' : σ} (live : d.phase ≠ .terminated)
    (opened : Opens d d₁) (presented : d₁.present s = (opening, d', s')) :
    Begins d s opening d' s'

theorem enter_begins {d d' : Debugger} {s s' : σ} {opening : Opening}
    (done : d.enter s = (opening, d', s')) : Begins d s opening d' s' := by
  unfold enter at done
  split at done
  · rename_i terminated
    cases done
    exact .exited terminated
  · rename_i live
    split at done
    · rename_i resuming
      exact .opened live (.again resuming) done
    · rename_i notResuming
      have fresh : d.resuming = false := by simpa using notResuming
      unfold record at done
      cases taken : d.machine.snapshot with
      | error f =>
        simp only [taken] at done
        cases done
        exact .missing live fresh taken
      | ok h =>
        simp only [taken, Array.size_push] at done
        by_cases full : d.settings.instructionLimit < d.history.size + 1
        · simp only [full, if_true] at done
          cases done
          exact .outgrown live fresh taken (Nat.le_of_lt_succ full)
        · simp only [full, if_false] at done
          exact .opened live (.anew fresh taken (by omega)) done

theorem enter_enters {d d' : Debugger} {s s' : σ} {opening : Opening}
    (done : d.enter s = (opening, d', s')) : Enters d opening d' := by
  cases enter_begins done with
  | exited terminated => exact .exited terminated
  | missing live fresh absent => exact .faulted (.missing live fresh absent)
  | outgrown live fresh snapshot full => exact .faulted (.outgrown live fresh snapshot full)
  | opened live opened presented => exact present_enters live opened presented

theorem execute_transition {d d₁ d₂ d' : Debugger} {s s' : σ} {result : Except Fault StepResult}
    (live : d.phase ≠ .terminated) (opened : Opens d d₁) (proceeded : Proceeds d₁ d₂)
    (done : d₂.execute s = (result, d', s')) : Transition d result d' := by
  rw [execute_eq] at done
  split at done
  · rename_i failed
    cases done
    exact .faulted live opened proceeded failed
  · rename_i stepped
    cases done
    exact .performed live opened proceeded stepped

/-- Every step is one of the transitions, whatever its console shows and answers. -/
theorem step_transition {d d' : Debugger} {s s' : σ} {result : Except Fault StepResult}
    (done : d.step s = (result, d', s')) : Transition d result d' := by
  unfold step at done
  split at done <;> rename_i entered <;> have opening := enter_enters entered
  · cases done
    cases opening with
    | faulted failed => exact failed
  · cases done
    cases opening with
    | exited terminated => exact .ended terminated
  · cases opening with
    | ready live opened proceeded => exact execute_transition live opened proceeded done
  · cases opening with
    | prompting live opened interactive =>
      split at done <;> rename_i conversed
      · exact execute_transition live opened
          (.asked interactive (converse_cases conversed)) done
      · cases done
        exact .left live opened interactive (converse_cases conversed)

theorem Transition.settings {d d' : Debugger} {result : Except Fault StepResult}
    (moved : Transition d result d') : d'.settings = d.settings := by
  cases moved with
  | ended | missing | outgrown => rfl
  | left _ opened _ conversed => exact conversed.keeps.1.trans opened.keeps.2.1
  | performed _ opened proceeded | faulted _ opened proceeded =>
    exact proceeded.keeps.1.trans opened.keeps.2.1

theorem Handles.settings {d d' : Debugger} {result : Except OperatorError Verdict}
    (handled : Handles d result d') : d'.settings = d.settings := by
  cases handled with
  | refused | exit | resume => rfl
  | stay revisited => cases revisited <;> rfl

/-! ## Steps with their consoles -/

/-- Showing a frame, or none, changes nothing of the debugger but its phase. -/
theorem present_phase (d : Debugger) (s : σ) : ∃ phase, (d.present s).2.1 = { d with phase } := by
  have drawn (d : Debugger) (s : σ) : ∃ phase, (d.draw s).2.1 = { d with phase } := by
    unfold draw
    simp only
    split
    · exact ⟨.paused, rfl⟩
    · exact ⟨d.phase, rfl⟩
  unfold present
  split
  · split
    · exact drawn d s
    · exact drawn d s
    · split
      · obtain ⟨phase, shown⟩ := drawn { d with phase := .running } (Console.note s (.breakpointHit _))
        exact ⟨phase, shown⟩
      · exact ⟨d.phase, rfl⟩
    · exact ⟨d.phase, rfl⟩
    · exact ⟨d.phase, rfl⟩
  · exact ⟨d.phase, rfl⟩

/-- Performing a command changes nothing of the debugger but its machine. -/
theorem execute_machine (d : Debugger) (s : σ) :
    ∃ machine, (d.execute s).2.1 = { d with machine } := by
  rw [execute_eq]
  split
  · exact ⟨d.machine, rfl⟩
  · exact ⟨_, rfl⟩

/-- An opening that goes on has opened the step, and changed no more than the phase. -/
theorem enter_opens {d d' : Debugger} {s s' : σ} {opening : Opening}
    (entered : d.enter s = (opening, d', s')) (on : opening = .ready ∨ opening = .prompting) :
    ∃ d₁ phase, Opens d d₁ ∧ d' = { d₁ with phase } := by
  cases enter_begins entered with
  | exited | missing | outgrown => simp at on
  | @opened d₁ _ _ _ _ opened presented =>
    obtain ⟨phase, same⟩ := present_phase d₁ s
    rw [presented] at same
    exact ⟨d₁, phase, opened, same⟩

/-- A step gets to its command: at once, or when the operator resumes the run. -/
inductive Arrives (d : Debugger) (s : σ) : Debugger → σ → Prop
  | ready {d' : Debugger} {s' : σ} (entered : d.enter s = (.ready, d', s')) : Arrives d s d' s'
  | asked {d₁ d' : Debugger} {s₁ s' : σ} (entered : d.enter s = (.prompting, d₁, s₁))
    (resumed : d₁.converse s₁ = (true, d', s')) : Arrives d s d' s'

/-- The parts of a step, by how far it gets. -/
theorem step_parts {d d' : Debugger} {s s' : σ} {result : Except Fault StepResult}
    (done : d.step s = (result, d', s')) :
    (∃ d₁ s₁, Arrives d s d₁ s₁ ∧ d₁.execute s₁ = (result, d', s')) ∨
      (result = .ok .exited ∧ (d.enter s = (.exited, d', s') ∨
        ∃ d₁ s₁, d.enter s = (.prompting, d₁, s₁) ∧ d₁.converse s₁ = (false, d', s'))) ∨
      ∃ f, result = .error f ∧ d.enter s = (.faulted f, d', s') := by
  unfold step at done
  split at done <;> rename_i entered
  · cases done
    exact .inr (.inr ⟨_, rfl, entered⟩)
  · cases done
    exact .inr (.inl ⟨rfl, .inl entered⟩)
  · exact .inl ⟨_, _, .ready entered, done⟩
  · split at done <;> rename_i conversed
    · exact .inl ⟨_, _, .asked entered conversed, done⟩
    · cases done
      exact .inr (.inl ⟨rfl, .inr ⟨_, _, entered, conversed⟩⟩)

theorem size_backTo {d : Debugger} {index : Nat} {h : Snapshot}
    (recorded : d.history[index]? = some h) : (d.backTo index h).history.size = index + 1 := by
  have bound := (Array.getElem?_eq_some_iff.mp recorded).1
  simp only [backTo, Array.take_eq_extract, Array.size_extract]
  omega

/-- Going back keeps at least one snapshot. -/
theorem Revisits.size {d d' : Debugger} (revisited : Revisits d d') :
    d'.history.size ≤ d.history.size ∧ (0 < d.history.size → 0 < d'.history.size) := by
  cases revisited with
  | stay => exact ⟨Nat.le_refl _, id⟩
  | @back index h recorded =>
    have bound := (Array.getElem?_eq_some_iff.mp recorded).1
    rw [size_backTo recorded]
    omega

theorem Converses.size {d d' : Debugger} {resumes : Bool} (conversed : Converses d resumes d') :
    d'.history.size ≤ d.history.size ∧ (0 < d.history.size → 0 < d'.history.size) := by
  cases conversed with
  | resume revisited | terminate revisited => exact revisited.size

theorem Proceeds.size_le {d d' : Debugger} (proceeded : Proceeds d d') :
    d'.history.size ≤ d.history.size := by
  cases proceeded with
  | quiet | arrived => exact Nat.le_refl _
  | asked _ conversed => exact conversed.size.1

end Debugger

end RegisterMachine
