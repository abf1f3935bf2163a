import RegisterMachine.Proofs.Debug.Events
import RegisterMachine.Proofs.Debug.Timeline

/-!
# Phases, and sessions that have ended

Between two calls of operations nobody is being asked, and a session that has ended stays
ended until an operator lets it go on, by `continue` or by a breakpoint that is confirmed.
Going back in its history does not do that, so the history can be looked at afterwards.

* `handle_phase`: no other line changes the phase.
* `Lingers` and `LingersOn`: calls that do not let a session go on, with their events.
* `Ended`: the session has ended in front of a command.  `Ended.step` and `Ended.run`: a
  step or a run does nothing there.  `Ended.lingers`: the calls above keep it.
* `reachable_phases`: the phases of every reachable debugger.
-/

namespace RegisterMachine.Debugger

variable {σ : Type} [Console σ]

/-! ## Lines that keep the phase -/

/-- The line asks for a breakpoint where one may be set, and the operator says yes. -/
def Confirms (d : Debugger) (line : String) (s : σ) : Prop :=
  ∃ target d' s', d.begin line s = (.ok (.confirm target), d', s') ∧
    (Console.ask s').1.any isAffirmative = true

theorem react_phase {d d' : Debugger} {command : OperatorCommand}
    {result : Except OperatorError Reaction} {s s' : σ}
    (done : d.react command s = (result, d', s')) (other : command ≠ .proceed) :
    d'.phase = d.phase := by
  cases command with
  | step | exit | help | states =>
    cases done
    rfl
  | proceed => exact absurd rfl other
  | reset | rollback =>
    rcases revisit_cases done with ⟨e, -, rfl, -⟩ | ⟨-, revisited⟩
    · rfl
    · exact revisited.phase
  | suspendUntil line =>
    simp only [react] at done
    split at done <;> cases done <;> rfl

/-- Only `continue` and a breakpoint that is confirmed change the phase. -/
theorem handle_phase {d d' : Debugger} {line : String} {s s' : σ}
    {result : Except OperatorError Verdict} (done : d.handle line s = (result, d', s'))
    (other : OperatorCommand.parse line ≠ .ok .proceed) (unconfirmed : ¬ d.Confirms line s) :
    d'.phase = d.phase := by
  unfold handle at done
  rcases begun : d.begin line s with ⟨result₁, d₁, s₁⟩
  have kept : d₁.phase = d.phase := by
    unfold begin at begun
    split at begun
    · cases begun
      rfl
    · rename_i command parsed
      exact react_phase begun (fun same => other (same ▸ parsed))
  rw [begun] at done
  cases result₁ with
  | error e =>
    cases done
    exact kept
  | ok reaction =>
    cases reaction with
    | verdict v =>
      cases done
      exact kept
    | confirm target =>
      have no : (Console.ask s₁).1.any isAffirmative = false := by
        simpa using fun yes => unconfirmed ⟨target, d₁, s₁, begun, yes⟩
      simp only [settle, no] at done
      cases done
      exact kept

/-! ## Calls that do not let a session go on -/

/-- A call of an operation that is not meant to let a session go on, on any console, with its
events. -/
inductive Lingers (d : Debugger) : List Event → Debugger → Prop
  | step {σ : Type} [Console σ] (s : σ) : Lingers d (d.stepEvents s) (d.step s).2.1
  | run {σ : Type} [Console σ] (s : σ) : Lingers d (d.runEvents s) (d.run s).2.1
  | rollback {σ : Type} [Console σ] {index : Nat} {s : σ} {result : Except OperatorError Unit}
    {d' : Debugger} {t : Transcribed σ}
    (done : d.rollback index (Transcribed.start s) = (result, d', t)) :
    Lingers d (t.calls.map .call) d'
  | handle {σ : Type} [Console σ] {line : String} {s : σ}
    (other : OperatorCommand.parse line ≠ .ok .proceed) (unconfirmed : ¬ d.Confirms line s) :
    Lingers d (d.handleEvents line s) (d.handle line s).2.1

/-- Such calls, one after the other. -/
inductive LingersOn (d₀ : Debugger) : List Event → Debugger → Prop
  | nothing : LingersOn d₀ [] d₀
  | next {events events' : List Event} {d d' : Debugger} (before : LingersOn d₀ events d)
    (lingered : Lingers d events' d') : LingersOn d₀ (events ++ events') d'

/-! ## Ended sessions -/

/-- The session has ended, in front of the command that its last snapshot holds. -/
structure Ended (m₀ : Machine) (d : Debugger) : Prop where
  phase_eq : d.phase = .terminated
  timeline : Timeline m₀ d
  pending : Pending m₀ d

variable {m₀ : Machine} {d d' : Debugger}

theorem Ended.running (ended : Ended m₀ d) : d.machine.isHalted = false := by
  obtain ⟨h, -, taken⟩ := ended.pending.snapshot ended.timeline
  exact Machine.isHalted_of_snapshot taken

theorem Ended.enter (ended : Ended m₀ d) (s : σ) : d.enter s = (.exited, d, s) :=
  if_pos ended.phase_eq

theorem Ended.step (ended : Ended m₀ d) (s : σ) : d.step s = (.ok .exited, d, s) := by
  simp only [Debugger.step, ended.enter]

theorem Ended.run (ended : Ended m₀ d) (s : σ) : d.run s = (.ok .exited, d, s) := by
  rw [run_eq, if_neg (by simp [ended.running]), ended.step]

theorem Ended.stepEvents (ended : Ended m₀ d) (s : σ) :
    d.stepEvents s = [.returned (.ok .exited) false] := by
  simp [Debugger.stepEvents, enterEvents, ended.enter]

theorem Ended.runEvents (ended : Ended m₀ d) (s : σ) :
    d.runEvents s = [.returned (.ok .exited) false] := by
  simp [runEvents_eq, ended.running, ended.step, ended.stepEvents]

theorem Ended.revisits (ended : Ended m₀ d) (revisited : Revisits d d') : Ended m₀ d' := by
  obtain ⟨timeline, stands⟩ := ended.timeline.revisits revisited
  exact ⟨revisited.phase.trans ended.phase_eq, timeline, stands ended.pending⟩

theorem Revisits.history (revisited : Revisits d d') :
    ∃ kept, d'.history = d.history.take kept := by
  cases revisited with
  | stay => exact ⟨d.history.size, by simp⟩
  | @back index h => exact ⟨index + 1, rfl⟩

/-- No line is a command of the program. -/
theorem attempt_notMem_handleEvents (d : Debugger) (line : String) (s : σ) (c : Command) :
    .attempt c ∉ d.handleEvents line s := by
  unfold handleEvents lineEvents
  simp only
  split
  · intro among
    obtain ⟨call, -, same⟩ := List.mem_map.1 among
    cases call <;> cases same
  · simp

/-- What a call does that does not let an ended session go on: it goes back at most. -/
theorem Ended.lingers (ended : Ended m₀ d) {events : List Event} (lingered : Lingers d events d') :
    Revisits d d' ∧ ∀ c, Event.attempt c ∉ events := by
  cases lingered with
  | step s =>
    rw [ended.step, ended.stepEvents]
    exact ⟨.stay, by simp⟩
  | run s =>
    rw [ended.run, ended.runEvents]
    exact ⟨.stay, by simp⟩
  | rollback done =>
    rcases rollback_cases done with ⟨e, -, rfl, -⟩ | ⟨h, -, recorded, rfl⟩
    · exact ⟨.stay, by simp⟩
    · exact ⟨.back recorded, by simp⟩
  | @handle _ _ line s other unconfirmed =>
    refine ⟨?_, attempt_notMem_handleEvents d line s⟩
    rcases done : d.handle line s with ⟨result, d', s'⟩
    have same := handle_phase done other unconfirmed
    rcases handle_goes done with ⟨phase, rfl, -⟩ | ⟨command, index, h, back⟩
    · cases same
      exact .stay
    · rw [back.debugger]
      exact .back back.recorded

theorem Ended.lingersOn (ended : Ended m₀ d) {events : List Event}
    (lingered : LingersOn d events d') : Revisits d d' ∧ ∀ c, Event.attempt c ∉ events := by
  induction lingered with
  | nothing => exact ⟨.stay, by simp⟩
  | next _ call ih =>
    obtain ⟨revisited, none⟩ := ih
    obtain ⟨revisited', none'⟩ := (ended.revisits revisited).lingers call
    refine ⟨revisited.trans revisited', fun c among => ?_⟩
    rcases List.mem_append.1 among with earlier | later
    · exact none c earlier
    · exact none' c later

/-! ## Reachable debuggers -/

/-- Nobody is being asked, and a session that has ended has done so in front of a command. -/
structure Settled (m₀ : Machine) (d : Debugger) : Prop where
  timeline : Timeline m₀ d
  unasked : d.phase ≠ .paused
  ended : d.phase = .terminated → Pending m₀ d

theorem Proceeds.unasked (proceeded : Proceeds d d') (unasked : d.phase ≠ .paused) :
    d'.phase ≠ .paused := by
  cases proceeded with
  | quiet => exact unasked
  | arrived => simp
  | asked _ conversed => exact (conversed.resume_phase rfl).1

/-- A step that gets to its command leaves nobody being asked, and does not end the
session. -/
theorem Settled.proceeds (settled : Settled m₀ d) {d₁ d₂ : Debugger}
    (live : d.phase ≠ .terminated) (opened : Opens d d₁) (proceeded : Proceeds d₁ d₂) :
    d₂.phase ≠ .paused ∧ d₂.phase ≠ .terminated := by
  have same := opened.keeps.1
  exact ⟨proceeded.unasked (same ▸ settled.unasked), proceeded.live (same ▸ live)⟩

theorem Settled.transition {result : Except Fault StepResult} (settled : Settled m₀ d)
    (moved : Transition d result d') : Settled m₀ d' := by
  have timeline := settled.timeline.transition moved
  cases moved with
  | ended | missing => exact settled
  | outgrown live => exact ⟨timeline, settled.unasked, fun ended => absurd ended live⟩
  | left _ opened _ conversed =>
    obtain ⟨opened, pending⟩ := settled.timeline.opens opened
    obtain ⟨-, pending⟩ := opened.converses pending conversed
    cases conversed with
    | terminate => exact ⟨timeline, by simp [terminate], fun _ => pending⟩
  | performed live opened proceeded | faulted live opened proceeded =>
    obtain ⟨unasked, on⟩ := settled.proceeds live opened proceeded
    exact ⟨timeline, unasked, fun ended => absurd ended on⟩

theorem Settled.handles {result : Except OperatorError Verdict} (settled : Settled m₀ d)
    (handled : Handles d result d') : Settled m₀ d' := by
  have timeline := settled.timeline.handles handled
  cases handled with
  | refused | exit => exact settled
  | stay revisited =>
    have stands := (settled.timeline.revisits revisited).2
    refine ⟨timeline, revisited.phase ▸ settled.unasked, fun ended => ?_⟩
    exact stands (settled.ended (revisited.phase ▸ ended))
  | resume resumed =>
    cases resumed with
    | stepping => exact settled
    | silent | breakpoint => exact ⟨timeline, by simp, by simp⟩

theorem Settled.initial {settings : Settings} (created : create m₀ settings = .ok d) :
    Settled m₀ d := by
  refine ⟨.initial created, ?_, ?_⟩
  all_goals
    obtain ⟨delay, rfl⟩ := create_eq_ok created
    simp

/-- Whatever calls lead to a debugger, nobody is being asked when they are over.  If the
session has ended, it stays so for all calls that do not let it go on: the machine has not
halted, a step or a run does nothing, to the console either, and says that the session has
ended; the history is at most cut off, and no command is attempted. -/
theorem reachable_phases {settings : Settings} {d₀ : Debugger}
    (created : create m₀ settings = .ok d₀) (reachable : Reachable d₀ d) :
    d.phase ≠ .paused ∧
      (d.phase = .terminated → ∀ events d', LingersOn d events d' →
        d'.phase = .terminated ∧ d'.machine.isHalted = false ∧
          (∀ {σ : Type} [Console σ] (s : σ),
            d'.step s = (.ok .exited, d', s) ∧ d'.run s = (.ok .exited, d', s)) ∧
          (∃ kept, d'.history = d.history.take kept) ∧ ∀ c, Event.attempt c ∉ events) := by
  have settled : Settled m₀ d :=
    reachable.induct Settled.transition Settled.handles (.initial created)
  refine ⟨settled.unasked, fun terminated events d' lingered => ?_⟩
  have ended : Ended m₀ d := ⟨terminated, settled.timeline, settled.ended terminated⟩
  obtain ⟨revisited, none⟩ := ended.lingersOn lingered
  have ended' := ended.revisits revisited
  exact ⟨ended'.phase_eq, ended'.running, fun s => ⟨ended'.step s, ended'.run s⟩,
    revisited.history, none⟩

/-- A session is left at its second prompt.  Afterwards the host goes back to the start and
asks for a breakpoint, to which the operator says no. -/
theorem reachable_phases_left :
    let m₀ := Machine.start
      ⟨[⟨.load, .immediate 1, 1⟩, ⟨.load, .immediate 2, 2⟩, ⟨.halt, .absent, 3⟩]⟩ []
    let settings : Settings := { interactive := true }
    let d₀ : Debugger := ⟨m₀, settings, ⟨1, 0⟩, #[], .running, false⟩
    let d := (d₀.run ({ answers := [some "", some "exit"] } : Script)).2.1
    let back := (d.handle "rollback 0" ({} : SilentConsole)).2.1
    let asked : Script := { answers := [some "no"] }
    let d' := (back.handle "suspenduntil 2" asked).2.1
    create m₀ settings = .ok d₀ ∧ Reachable d₀ d ∧ d.phase = .terminated ∧ d.history.size = 2 ∧
      d'.history.size = 1 ∧ d'.phase = .terminated ∧ d'.machine.isHalted = false ∧
      d'.run asked = (.ok .exited, d', asked) := by
  intro m₀ settings d₀ d back asked d'
  have created : create m₀ settings = .ok d₀ := rfl
  have reachable : Reachable d₀ d := .single (.run _)
  have terminated : d.phase = .terminated := by decide +kernel
  have gone : Lingers d (d.handleEvents "rollback 0" ({} : SilentConsole)) back := by
    refine .handle (by decide +kernel) ?_
    intro ⟨_, _, _, _, yes⟩
    cases yes
  have refused : Lingers back (back.handleEvents "suspenduntil 2" asked) d' := by
    refine .handle (by decide +kernel) ?_
    intro ⟨_, _, _, begun, yes⟩
    have no :
        (Console.ask (back.begin "suspenduntil 2" asked).2.2).1.any isAffirmative = false := by
      decide +kernel
    rw [begun, yes] at no
    cases no
  have lingered := (LingersOn.nothing.next gone).next refused
  obtain ⟨stays, running, idle, -, -⟩ :=
    (reachable_phases created reachable).2 terminated _ d' lingered
  exact ⟨created, reachable, terminated, by decide +kernel, by decide +kernel, stays, running,
    (idle asked).2⟩

end RegisterMachine.Debugger
