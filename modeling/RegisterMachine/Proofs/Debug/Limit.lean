import RegisterMachine.Proofs.Debug.Reachable

/-!
# How far the limit holds

The limit is checked when a snapshot is recorded.  A step that takes up the state which a
rollback brought back records nothing, so it is the rollback that decides whether the
history is within the limit there.  In a prompt it always is.  Outside one, the history
may hold the snapshot that exceeded the limit, and a rollback may go to that one.

* `OperatesWithin limit`: a call of an operation that does not go back to a snapshot
  numbered `limit` or more; numbers start at zero.
* `Bounded limit`: the invariant, that a state to be taken up again is within the limit.
* `performed_within_limit`: after such calls, a step that performs a command has a history
  within the limit; after any calls, one that asks nobody is beyond it just when it takes up
  a state that is.
-/

namespace RegisterMachine.Debugger

/-- One call of an operation that goes back, if it does, to a snapshot numbered below the
limit. -/
inductive OperatesWithin (limit : Nat) (d : Debugger) : Debugger → Prop
  | step {σ : Type} [Console σ] (s : σ) : OperatesWithin limit d (d.step s).2.1
  | run {σ : Type} [Console σ] (s : σ) : OperatesWithin limit d (d.run s).2.1
  | rollback {σ : Type} [Console σ] {index : Nat} (s : σ)
    (early : (d.rollback index s).1 = .ok () → index < limit) :
    OperatesWithin limit d (d.rollback index s).2.1
  | suspendUntil {σ : Type} [Console σ] (line : Nat) (s : σ) :
    OperatesWithin limit d (d.suspendUntil line s).2.1
  | continueSilently {σ : Type} [Console σ] (s : σ) :
    OperatesWithin limit d (d.continueSilently s).1
  | handle {σ : Type} [Console σ] {line : String} (s : σ)
    (early : ∀ command index, OperatorCommand.parse line = .ok command →
      command.destination? = some index → index < limit) :
    OperatesWithin limit d (d.handle line s).2.1

/-- A state that is to be taken up again is within the limit. -/
structure Bounded (limit : Nat) (d : Debugger) : Prop where
  limit_eq : d.settings.instructionLimit = limit
  within : d.resuming = true → d.history.size ≤ limit

variable {limit : Nat} {d d' : Debugger}

/-- A step that opens has a history within the limit. -/
theorem Bounded.opens (bounded : Bounded limit d) (opened : Opens d d') :
    d'.history.size ≤ limit := by
  cases opened with
  | again resuming => exact bounded.within resuming
  | anew _ _ room =>
    rw [bounded.limit_eq] at room
    rw [Array.size_push]
    exact room

theorem Bounded.transition {result : Except Fault StepResult} (bounded : Bounded limit d)
    (moved : Transition d result d') : Bounded limit d' := by
  cases moved with
  | ended | missing => exact bounded
  | outgrown _ fresh =>
    refine ⟨bounded.limit_eq, fun resuming => ?_⟩
    rw [fresh] at resuming
    cases resuming
  | @left d₁ _ _ opened _ conversed =>
    have settings := conversed.keeps.1.trans opened.keeps.2.1
    have opened : d₁.history.size ≤ limit := bounded.opens opened
    have within := Nat.le_trans conversed.size.1 opened
    exact ⟨settings ▸ bounded.limit_eq, fun _ => within⟩
  | performed _ opened proceeded | faulted _ opened proceeded =>
    have settings := proceeded.keeps.1.trans opened.keeps.2.1
    have within := Nat.le_trans proceeded.size_le (bounded.opens opened)
    exact ⟨settings ▸ bounded.limit_eq, fun _ => within⟩

theorem Bounded.backTo (bounded : Bounded limit d) {index : Nat} {h : Snapshot}
    (recorded : d.history[index]? = some h) (early : index < limit) :
    Bounded limit (d.backTo index h) :=
  ⟨bounded.limit_eq, fun _ => size_backTo recorded ▸ early⟩

theorem Bounded.run {σ : Type} [Console σ] (bounded : Bounded limit d) (s : σ) :
    Bounded limit (d.run s).2.1 := by
  fun_induction Debugger.run d s with
  | case1 d s => exact bounded
  | case2 d s running f d' s' stepped => exact bounded.transition (step_transition stepped)
  | case3 d s running d' s' stepped => exact bounded.transition (step_transition stepped)
  | case4 d s running o d' s' stepped _ ih => exact ih (bounded.transition (step_transition stepped))

theorem Bounded.operates (bounded : Bounded limit d) (operated : OperatesWithin limit d d') :
    Bounded limit d' := by
  cases operated with
  | step s =>
    rcases done : d.step s with ⟨result, d', s'⟩
    exact bounded.transition (step_transition done)
  | run s => exact bounded.run s
  | @rollback _ _ index s early =>
    rcases done : d.rollback index s with ⟨result, d', s'⟩
    rcases rollback_cases done with ⟨e, -, rfl, -⟩ | ⟨h, went, recorded, rfl⟩
    · exact bounded
    · rw [done] at early
      exact bounded.backTo recorded (early went)
  | suspendUntil line s =>
    rcases done : d.suspendUntil line s with ⟨result, d', s'⟩
    rcases suspendUntil_cases done with ⟨e, -, rfl, -⟩ | ⟨-, -, rfl⟩
    · exact bounded
    · exact ⟨bounded.limit_eq, bounded.within⟩
  | continueSilently s => exact ⟨bounded.limit_eq, bounded.within⟩
  | @handle _ _ line s early =>
    rcases done : d.handle line s with ⟨result, d', s'⟩
    rcases handle_goes done with ⟨phase, rfl, -⟩ | ⟨command, index, h, back⟩
    · exact ⟨bounded.limit_eq, bounded.within⟩
    · rw [back.debugger]
      exact bounded.backTo back.recorded (early command index back.parsed back.destination)

theorem Bounded.performed {o : Outcome} (bounded : Bounded limit d)
    (moved : Transition d (.ok (.performed o)) d') : d'.history.size ≤ limit := by
  cases moved with
  | performed _ opened proceeded => exact Nat.le_trans proceeded.size_le (bounded.opens opened)

/-- A step that takes up a state again and asks nobody performs its command with the
history as it is. -/
theorem performed_unasked {σ : Type} [Console σ] {s s' : σ} {o : Outcome}
    (resuming : d.resuming = true) (unasked : (d.enter s).1 = .ready)
    (stepped : d.step s = (.ok (.performed o), d', s')) : d'.history = d.history := by
  rcases step_parts stepped with ⟨d₁, s₁, arrived, executed⟩ | ⟨other, -⟩ | ⟨f, other, -⟩
  · obtain ⟨machine, same⟩ := execute_machine d₁ s₁
    rw [executed] at same
    cases same
    cases arrived with
    | ready entered =>
      obtain ⟨d₂, phase, opened, rfl⟩ := enter_opens entered (.inl rfl)
      cases opened with
      | again => rfl
      | anew fresh =>
        rw [resuming] at fresh
        cases fresh
    | asked entered =>
      rw [entered] at unasked
      cases unasked
  · cases other
  · cases other

/-- As long as no call goes back to a snapshot numbered with the limit or more, every step
that performs a command has a history within the limit, whatever faults and exceeded limits
came before.  After any calls at all, a step that asks nobody and performs its command is
beyond the limit just when it takes up a state that is. -/
theorem performed_within_limit {m₀ : Machine} {settings : Settings} {d₀ : Debugger}
    (created : create m₀ settings = .ok d₀) {σ : Type} [Console σ] :
    let limit := settings.instructionLimit
    (∀ d d' (s s' : σ) o, Relation.ReflTransGen (OperatesWithin limit) d₀ d →
      d.step s = (.ok (.performed o), d', s') → d'.history.size ≤ limit) ∧
    ∀ d d' (s s' : σ) o, Reachable d₀ d → (d.enter s).1 = .ready →
      d.step s = (.ok (.performed o), d', s') →
      (limit < d'.history.size ↔ d.resuming = true ∧ limit < d.history.size) := by
  intro limit
  have start : d₀.settings = settings ∧ d₀.resuming = false := by
    obtain ⟨delay, rfl⟩ := create_eq_ok created
    exact ⟨rfl, rfl⟩
  constructor
  · intro d d' s s' o operated stepped
    have bounded : Bounded limit d := by
      clear stepped
      induction operated with
      | refl => exact ⟨by rw [start.1], by simp [start.2]⟩
      | tail _ operated ih => exact ih.operates operated
    exact bounded.performed (step_transition stepped)
  · intro d d' s s' o reachable unasked stepped
    have limit_eq : d.settings.instructionLimit = limit := by rw [reachable.settings, start.1]
    constructor
    · intro beyond
      by_contra other
      have bounded : Bounded limit d := ⟨limit_eq, by grind⟩
      have within := bounded.performed (step_transition stepped)
      omega
    · rintro ⟨resuming, beyond⟩
      rw [performed_unasked resuming unasked stepped]
      exact beyond

/-- A run that has exceeded its limit goes back by one command, within the limit, and
performs it again. -/
theorem performed_within_limit_again :
    let m₀ := Machine.start ⟨[⟨.goto, .immediate 1, 1⟩]⟩ []
    let settings : Settings := { instructionLimit := 2 }
    let d₀ : Debugger := ⟨m₀, settings, ⟨1, 0⟩, #[], .running, false⟩
    let d := ((d₀.run ({} : SilentConsole)).2.1.handle "rollback 1" ({} : SilentConsole)).2.1
    create m₀ settings = .ok d₀ ∧ (d₀.run ({} : SilentConsole)).1 = .error (.limitExceeded 2) ∧
      (d₀.run ({} : SilentConsole)).2.1.history.size = 3 ∧
      (d.step ({} : SilentConsole)).1 = .ok (.performed ⟨⟨.goto, .immediate 1, 1⟩, 1⟩) ∧
      (d.step ({} : SilentConsole)).2.1.history.size ≤ 2 := by
  intro m₀ settings d₀ d
  have created : create m₀ settings = .ok d₀ := rfl
  have parsed : OperatorCommand.parse "rollback 1" = .ok (.rollback 1) := by decide +kernel
  have operated : Relation.ReflTransGen (OperatesWithin 2) d₀ d := by
    refine (Relation.ReflTransGen.single (.run _)).tail (.handle _ ?_)
    intro command index same destination
    cases parsed.symm.trans same
    cases destination
    decide
  have result : (d.step ({} : SilentConsole)).1 =
      .ok (.performed ⟨⟨.goto, .immediate 1, 1⟩, 1⟩) := by decide +kernel
  refine ⟨created, by decide +kernel, by decide +kernel, result, ?_⟩
  exact (performed_within_limit created).1 d _ _ _ _ operated (Prod.ext result rfl)

/-- The limit does not hold after every call: a run that has exceeded it goes back to the
snapshot that did, and performs one more command there. -/
theorem performed_beyond_limit :
    let m₀ := Machine.start ⟨[⟨.load, .immediate 1, 1⟩, ⟨.halt, .immediate 0, 2⟩]⟩ []
    let settings : Settings := { instructionLimit := 1 }
    let d₀ : Debugger := ⟨m₀, settings, ⟨1, 0⟩, #[], .running, false⟩
    let d := ((d₀.run ({} : SilentConsole)).2.1.handle "rollback 1" ({} : SilentConsole)).2.1
    create m₀ settings = .ok d₀ ∧ Reachable d₀ d ∧
      (d₀.run ({} : SilentConsole)).1 = .error (.limitExceeded 1) ∧
      (d.step ({} : SilentConsole)).1 = .ok (.performed ⟨⟨.halt, .immediate 0, 2⟩, 0⟩) ∧
      (d.step ({} : SilentConsole)).2.1.history.size = 2 := by
  intro m₀ settings d₀ d
  have reachable : Reachable d₀ d := (Relation.ReflTransGen.single (.run _)).tail (.handle _ _)
  exact ⟨rfl, reachable, by decide +kernel, by decide +kernel, by decide +kernel⟩

end RegisterMachine.Debugger
