import Mathlib.Logic.Relation
import RegisterMachine.Proofs.Debug.Transition

/-!
# Reachable debuggers

A host may call the operations of a debugger in any order, each on a console of its
own, and may go on after a fault or after the end of a session.  `Operates` is one such
call and `Reachable` any number of them.  The consoles are those that bound their lines:
they are enough, since a call that returns from one without a bound does the same on a
script (`Returns.on_script`).

* `Operates.moves`: every call is made of transitions and of operator's lines.
* `Reachable.induct`: what these two keep holds of every reachable debugger.
-/

namespace RegisterMachine.Debugger

/-- One call of an operation, on any console.  A rollback or a breakpoint may be refused:
what it leaves then is a debugger that the host has, too. -/
inductive Operates (d : Debugger) : Debugger → Prop
  | step {σ : Type} [Console σ] (s : σ) : Operates d (d.step s).2.1
  | run {σ : Type} [Console σ] (s : σ) : Operates d (d.run s).2.1
  | rollback {σ : Type} [Console σ] (index : Nat) (s : σ) : Operates d (d.rollback index s).2.1
  | suspendUntil {σ : Type} [Console σ] (line : Nat) (s : σ) :
    Operates d (d.suspendUntil line s).2.1
  | continueSilently {σ : Type} [Console σ] (s : σ) : Operates d (d.continueSilently s).1
  | handle {σ : Type} [Console σ] (line : String) (s : σ) : Operates d (d.handle line s).2.1

/-- The debuggers that calls of operations lead to. -/
abbrev Reachable : Debugger → Debugger → Prop := Relation.ReflTransGen Operates

/-- A transition, or what one line of an operator does. -/
inductive Moves (d : Debugger) : Debugger → Prop
  | step {result : Except Fault StepResult} {d' : Debugger} (moved : Transition d result d') :
    Moves d d'
  | handle {result : Except OperatorError Verdict} {d' : Debugger}
    (handled : Handles d result d') : Moves d d'

/-- A run is a sequence of transitions. -/
theorem run_moves {σ : Type} [Console σ] (d : Debugger) (s : σ) :
    Relation.ReflTransGen Moves d (d.run s).2.1 := by
  fun_induction run d s with
  | case1 d s => exact .refl
  | case2 d s running f d' s' stepped => exact .single (.step (step_transition stepped))
  | case3 d s running d' s' stepped => exact .single (.step (step_transition stepped))
  | case4 d s running d' s' o stepped _ ih => exact .head (.step (step_transition stepped)) ih

theorem Operates.moves {d d' : Debugger} (operated : Operates d d') :
    Relation.ReflTransGen Moves d d' := by
  cases operated with
  | step s =>
    rcases done : d.step s with ⟨result, d', s'⟩
    exact .single (.step (step_transition done))
  | run s => exact run_moves d s
  | rollback index s =>
    rcases done : d.rollback index s with ⟨result, d', s'⟩
    rcases rollback_cases done with ⟨e, -, rfl, -⟩ | ⟨h, -, recorded, rfl⟩
    · exact .refl
    · exact .single (.handle (.stay (.back recorded)))
  | suspendUntil line s =>
    rcases done : d.suspendUntil line s with ⟨result, d', s'⟩
    rcases suspendUntil_cases done with ⟨e, -, rfl, -⟩ | ⟨-, allowed, rfl⟩
    · exact .refl
    · exact .single (.handle (.resume (.breakpoint allowed)))
  | continueSilently s => exact .single (.handle (.resume .silent))
  | handle line s =>
    rcases done : d.handle line s with ⟨result, d', s'⟩
    exact .single (.handle (handle_handles done))

/-- What every transition and every operator's line keeps, every reachable debugger
has. -/
theorem Reachable.induct {P : Debugger → Prop}
    (step : ∀ {d d' : Debugger} {result : Except Fault StepResult},
      P d → Transition d result d' → P d')
    (handle : ∀ {d d' : Debugger} {result : Except OperatorError Verdict},
      P d → Handles d result d' → P d')
    {d₀ d : Debugger} (reachable : Reachable d₀ d) (initial : P d₀) : P d := by
  have kept {d d' : Debugger} (moves : Relation.ReflTransGen Moves d d') (before : P d) : P d' := by
    induction moves with
    | refl => exact before
    | tail _ move ih =>
      cases move with
      | step moved => exact step ih moved
      | handle handled => exact handle ih handled
  induction reachable with
  | refl => exact initial
  | tail _ operated ih => exact kept operated.moves ih

/-- Nothing changes the settings. -/
theorem Reachable.settings {d₀ d : Debugger} (reachable : Reachable d₀ d) :
    d.settings = d₀.settings := by
  refine reachable.induct ?_ ?_ rfl (P := fun d => d.settings = d₀.settings)
  · intro d d' result before moved
    exact moved.settings.trans before
  · intro d d' result before handled
    exact handled.settings.trans before

end RegisterMachine.Debugger
