import RegisterMachine.Proofs.Debug.Reachable

/-!
# The history is a timeline

Whatever a host and an operator do with a debugger (see `Reachable` for the consoles on
which they do it), its history leads from the initial machine to the present one: each
snapshot is one command after the snapshot before it, or repeats it, and the present
machine is where the last snapshot stands or one command further.

* `Timeline` is the invariant; `Pending` adds that the present machine is where the last
  snapshot stands, which holds from the opening of a step until its command is performed.
* `reachable_timeline`: every reachable debugger has it.

A repeated snapshot is left by a step that records and then performs nothing: its
command faulted, the limit was exceeded, or the operator ended the session.
-/

namespace RegisterMachine

/-- A step from where `h` stands leads to where `h'` stands. -/
def Snapshot.Precedes (m₀ : Machine) (h h' : Snapshot) : Prop :=
  ∃ o m, (m₀.restore h).step = .ok (o, m) ∧ m.snapshot = .ok h'

namespace Debugger

/-- The present machine is where the last snapshot stands. -/
def Pending (m₀ : Machine) (d : Debugger) : Prop :=
  ∃ h, d.history.back? = some h ∧ d.machine = m₀.restore h

/-- The history leads from `m₀` to the present machine. -/
structure Timeline (m₀ : Machine) (d : Debugger) : Prop where
  /-- It starts with the snapshot of the initial machine. -/
  first : ∀ {h : Snapshot}, d.history[0]? = some h → m₀.snapshot = .ok h
  /-- A snapshot holds the command at its pointer. -/
  fetched : ∀ {i : Nat} {h : Snapshot}, d.history[i]? = some h →
    m₀.program.get? h.instructionPointer = some h.command
  /-- A snapshot repeats the one before it or is one command further. -/
  linked : ∀ {i : Nat} {h h' : Snapshot}, d.history[i]? = some h → d.history[i + 1]? = some h' →
    h' = h ∨ h.Precedes m₀ h'
  /-- The program and the input are those of the initial machine. -/
  kept : d.machine.program = m₀.program ∧ d.machine.input = m₀.input
  /-- The machine is where the last snapshot stands or one command further, and the initial
  one as long as there is no snapshot. -/
  live : (d.history = #[] ∧ d.machine = m₀) ∨ Pending m₀ d ∨
    ∃ h o, d.history.back? = some h ∧ (m₀.restore h).step = .ok (o, d.machine)
  /-- A debugger that is to use its last snapshot again is where that snapshot stands. -/
  resumed : d.resuming = true → Pending m₀ d

variable {m₀ : Machine} {d d' : Debugger}

/-- A debugger with the same machine, history and mark has the same timeline. -/
theorem Timeline.congr (timeline : Timeline m₀ d) (machine : d'.machine = d.machine)
    (history : d'.history = d.history) (resuming : d'.resuming = d.resuming) : Timeline m₀ d' := by
  obtain ⟨_, settings, delay, _, phase, _⟩ := d'
  cases machine
  cases history
  cases resuming
  exact ⟨timeline.first, timeline.fetched, timeline.linked, timeline.kept, timeline.live,
    timeline.resumed⟩

theorem Timeline.restore (timeline : Timeline m₀ d) (h : Snapshot) :
    d.machine.restore h = m₀.restore h := by
  obtain ⟨program, input⟩ := timeline.kept
  simp only [Machine.restore, program, input]

/-- A pending machine taken at its snapshot is recorded as that snapshot again. -/
theorem Pending.snapshot (pending : Pending m₀ d) (timeline : Timeline m₀ d) :
    ∃ h, d.history.back? = some h ∧ d.machine.snapshot = .ok h := by
  obtain ⟨h, last, standing⟩ := pending
  rw [Array.back?_eq_getElem?] at last
  refine ⟨h, Array.back?_eq_getElem? ▸ last, ?_⟩
  rw [standing]
  exact Machine.snapshot_restore (timeline.fetched last)

/-! ## Recording -/

/-- What is recorded next repeats the last snapshot or is one command further. -/
theorem Timeline.record_links (timeline : Timeline m₀ d) {h h' : Snapshot}
    (last : d.history.back? = some h) (snapshot : d.machine.snapshot = .ok h') :
    h' = h ∨ h.Precedes m₀ h' := by
  rcases timeline.live with ⟨empty, -⟩ | pending | ⟨h₁, o, last₁, stepped⟩
  · rw [empty] at last
    cases last
  · obtain ⟨h₁, last₁, again⟩ := pending.snapshot timeline
    obtain rfl := Option.some.inj (last.symm.trans last₁)
    exact .inl (Except.ok.inj (snapshot.symm.trans again))
  · obtain rfl := Option.some.inj (last.symm.trans last₁)
    exact .inr ⟨o, d.machine, stepped, snapshot⟩

/-- Recording keeps the timeline, and leaves the command of the new snapshot pending. -/
theorem Timeline.push (timeline : Timeline m₀ d) {h : Snapshot}
    (snapshot : d.machine.snapshot = .ok h) :
    Timeline m₀ { d with history := d.history.push h } ∧
      Pending m₀ { d with history := d.history.push h } := by
  have pending : Pending m₀ { d with history := d.history.push h } := by
    refine ⟨h, Array.back?_push, ?_⟩
    rw [← timeline.restore h]
    exact (Machine.restore_of_snapshot snapshot rfl rfl).symm
  refine ⟨⟨?_, ?_, ?_, timeline.kept, .inr (.inl pending), fun _ => pending⟩, pending⟩
  · intro h₁ at_zero
    rw [Array.getElem?_push] at at_zero
    split at at_zero
    · rename_i empty
      cases at_zero
      -- Nothing was recorded before, so the machine is still the initial one.
      rcases timeline.live with ⟨-, initial⟩ | ⟨h', last, -⟩ | ⟨h', o, last, -⟩
      · exact initial ▸ snapshot
      · simp [Array.back?_eq_getElem?, ← empty] at last
      · simp [Array.back?_eq_getElem?, ← empty] at last
    · exact timeline.first at_zero
  · intro i h₁ at_i
    rw [Array.getElem?_push] at at_i
    split at at_i
    · cases at_i
      rw [← timeline.kept.1]
      exact (Machine.snapshot_eq_ok_iff.mp snapshot).1
    · exact timeline.fetched at_i
  · intro i h₁ h₂ at_i at_succ
    rw [Array.getElem?_push] at at_i at_succ
    split at at_succ
    · rename_i last
      cases at_succ
      split at at_i
      · omega
      · refine timeline.record_links ?_ snapshot
        rw [Array.back?_eq_getElem?, ← last]
        exact at_i
    · split at at_i
      · have bound := (Array.getElem?_eq_some_iff.mp at_succ).1
        omega
      · exact timeline.linked at_i at_succ

theorem Timeline.opens (timeline : Timeline m₀ d) (opened : Opens d d') :
    Timeline m₀ d' ∧ Pending m₀ d' := by
  cases opened with
  | again resuming =>
    have pending := timeline.resumed resuming
    exact ⟨⟨timeline.first, timeline.fetched, timeline.linked, timeline.kept, timeline.live,
      fun _ => pending⟩, pending⟩
  | anew _ snapshot => exact timeline.push snapshot

/-! ## Going back -/

/-- Going back cuts the timeline off and leaves the command of the snapshot pending. -/
theorem Timeline.backTo (timeline : Timeline m₀ d) {index : Nat} {h : Snapshot}
    (recorded : d.history[index]? = some h) :
    Timeline m₀ (d.backTo index h) ∧ Pending m₀ (d.backTo index h) := by
  have bound := (Array.getElem?_eq_some_iff.mp recorded).1
  have cut {i : Nat} {h₁ : Snapshot} (at_i : (d.backTo index h).history[i]? = some h₁) :
      d.history[i]? = some h₁ := by
    simp only [Debugger.backTo, getElem?_take_history] at at_i
    split at at_i
    · exact at_i
    · cases at_i
  have pending : Pending m₀ (d.backTo index h) := by
    refine ⟨h, ?_, timeline.restore h⟩
    have size : (d.history.take (index + 1)).size = index + 1 := by
      simp only [Array.take_eq_extract, Array.size_extract]
      omega
    simp only [Debugger.backTo, Array.back?_eq_getElem?, getElem?_take_history, size,
      Nat.add_sub_cancel, Nat.lt_succ_self, if_true]
    exact recorded
  refine ⟨⟨fun at_zero => timeline.first (cut at_zero), fun at_i => timeline.fetched (cut at_i),
    fun at_i at_succ => timeline.linked (cut at_i) (cut at_succ), timeline.kept,
    .inr (.inl pending), fun _ => pending⟩, pending⟩

theorem Timeline.revisits (timeline : Timeline m₀ d) (revisited : Revisits d d') :
    Timeline m₀ d' ∧ (Pending m₀ d → Pending m₀ d') := by
  cases revisited with
  | stay => exact ⟨timeline, id⟩
  | back recorded =>
    obtain ⟨timeline, pending⟩ := timeline.backTo recorded
    exact ⟨timeline, fun _ => pending⟩

/-! ## Steps and lines -/

theorem Timeline.handles {result : Except OperatorError Verdict} (timeline : Timeline m₀ d)
    (handled : Handles d result d') : Timeline m₀ d' := by
  cases handled with
  | refused | exit => exact timeline
  | stay revisited => exact (timeline.revisits revisited).1
  | resume resumed => exact timeline.congr rfl rfl rfl

theorem Timeline.converses (timeline : Timeline m₀ d) (pending : Pending m₀ d) {resumes : Bool}
    (conversed : Converses { d with phase := .paused } resumes d') :
    Timeline m₀ d' ∧ Pending m₀ d' := by
  have paused : Timeline m₀ { d with phase := .paused } := timeline.congr rfl rfl rfl
  cases conversed with
  | resume revisited =>
    obtain ⟨back, stands⟩ := paused.revisits revisited
    have pending := stands pending
    exact ⟨⟨back.first, back.fetched, back.linked, back.kept, back.live, fun _ => pending⟩, pending⟩
  | terminate revisited =>
    obtain ⟨back, stands⟩ := paused.revisits revisited
    exact ⟨back.congr rfl rfl rfl, stands pending⟩

theorem Timeline.proceeds (timeline : Timeline m₀ d) (pending : Pending m₀ d)
    (proceeded : Proceeds d d') : Timeline m₀ d' ∧ Pending m₀ d' := by
  cases proceeded with
  | quiet => exact ⟨timeline, pending⟩
  | arrived => exact ⟨timeline.congr rfl rfl rfl, pending⟩
  | asked _ conversed => exact timeline.converses pending conversed

/-- Performing the pending command leads one command past the last snapshot. -/
theorem Timeline.performs (timeline : Timeline m₀ d) (pending : Pending m₀ d)
    (fresh : d.resuming = false) {o : Outcome} {m : Machine}
    (done : d.machine.step = .ok (o, m)) : Timeline m₀ { d with machine := m } := by
  obtain ⟨h, last, standing⟩ := pending
  have kept := Machine.step_keeps done
  refine ⟨timeline.first, timeline.fetched, timeline.linked, ?_, ?_, ?_⟩
  · exact ⟨kept.1.trans timeline.kept.1, kept.2.trans timeline.kept.2⟩
  · exact .inr (.inr ⟨h, o, last, standing ▸ done⟩)
  · intro resuming
    rw [fresh] at resuming
    cases resuming

theorem Timeline.transition {result : Except Fault StepResult} (timeline : Timeline m₀ d)
    (moved : Transition d result d') : Timeline m₀ d' := by
  cases moved with
  | ended => exact timeline
  | missing => exact timeline
  | outgrown _ _ snapshot => exact (timeline.push snapshot).1
  | left _ opened _ conversed =>
    obtain ⟨opened, pending⟩ := timeline.opens opened
    exact (opened.converses pending conversed).1
  | performed _ opened proceeded done =>
    have fresh := proceeded.fresh opened.keeps.2.2.2
    obtain ⟨opened, pending⟩ := timeline.opens opened
    obtain ⟨proceeded, pending⟩ := opened.proceeds pending proceeded
    exact proceeded.performs pending fresh done
  | faulted _ opened proceeded =>
    obtain ⟨opened, pending⟩ := timeline.opens opened
    exact (opened.proceeds pending proceeded).1

theorem Timeline.initial {settings : Settings} (created : create m₀ settings = .ok d) :
    Timeline m₀ d := by
  obtain ⟨delay, rfl⟩ := create_eq_ok created
  exact ⟨by simp, by simp, by simp, ⟨rfl, rfl⟩, .inl ⟨rfl, rfl⟩, by simp⟩

/-- The history of every debugger that any calls lead to is a timeline from the machine
that the debugger was created with. -/
theorem reachable_timeline {settings : Settings} {d₀ d : Debugger}
    (created : create m₀ settings = .ok d₀) (reachable : Reachable d₀ d) : Timeline m₀ d :=
  reachable.induct Timeline.transition Timeline.handles (Timeline.initial created)

/-- A division by zero is tried twice, which repeats its snapshot, and then left for the
start. -/
theorem reachable_timeline_after_faults :
    let m₀ : Machine :=
      { Machine.start ⟨[⟨.load, .immediate 1, 1⟩, ⟨.div, ⟨5, 1⟩, 2⟩]⟩ [] with
        registers := Registers.initial.set 6 9 }
    let d₀ : Debugger := ⟨m₀, {}, ⟨1, 0⟩, #[], .running, false⟩
    let next (d : Debugger) : Debugger := (d.step ({} : SilentConsole)).2.1
    let d := ((next (next (next d₀))).handle "rollback 1" ({} : SilentConsole)).2.1
    create m₀ {} = .ok d₀ ∧ Reachable d₀ d ∧ (next (next (next d₀))).history.size = 3 ∧
      d.history.size = 2 ∧ d.resuming = true ∧ Timeline m₀ d := by
  intro m₀ d₀ next d
  have created : create m₀ {} = .ok d₀ := rfl
  have steps : Reachable d₀ (next (next (next d₀))) :=
    ((Relation.ReflTransGen.single (.step _)).tail (.step _)).tail (.step _)
  have reachable : Reachable d₀ d := steps.tail (.handle "rollback 1" _)
  exact ⟨created, reachable, by decide +kernel, by decide +kernel, by decide +kernel,
    reachable_timeline created reachable⟩

end Debugger

end RegisterMachine
