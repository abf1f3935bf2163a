import Mathlib.Logic.Relation
import RegisterMachine.Proofs.Debug.Trace

/-!
# Going back and replaying

Without an operator, a debugger is told by how many commands it has performed: its
machine and its history are those of the run from the start.  Going back to a snapshot
therefore undoes exactly the commands since then, and as many steps as were undone
perform them again, with the same outcomes and to the same debugger.

* `Unattended` says where such a debugger stands; `Unattended.unique` that this
  determines it.
* `Unattended.step` and `Unattended.performs`: a step performs the command at which the
  debugger stands, and only that one.
* `rollback_replays`: going back and stepping on leads back to the same debugger.
-/

namespace RegisterMachine

/-- The command after the first `i` ones succeeds with outcome `o`. -/
def Machine.Yields (m : Machine) (i : Nat) (o : Outcome) : Prop :=
  ∃ m' m'', m.advance i = .ok m' ∧ m'.step = .ok (o, m'')

/-- From the first `n` commands on, the commands succeed with these outcomes. -/
def Machine.YieldsFrom (m : Machine) (n : Nat) : List Outcome → Prop
  | [] => True
  | o :: outcomes => m.Yields n o ∧ m.YieldsFrom (n + 1) outcomes

theorem Machine.YieldsFrom.drop {m : Machine} {n : Nat} {outcomes : List Outcome}
    (yields : m.YieldsFrom n outcomes) (k : Nat) : m.YieldsFrom (n + k) (outcomes.drop k) := by
  induction k generalizing n outcomes with
  | zero => exact yields
  | succ k ih =>
    cases outcomes with
    | nil => trivial
    | cons o outcomes =>
      rw [List.drop_succ_cons, Nat.add_comm k 1, ← Nat.add_assoc]
      exact ih yields.2

namespace Debugger

variable {σ τ : Type} [Console σ] [Console τ]

/-- The results of `n` steps one after the other, and what they leave. -/
def steps (d : Debugger) (n : Nat) (s : σ) : List (Except Fault StepResult) × Debugger × σ :=
  match n with
  | 0 => ([], d, s)
  | n + 1 =>
    let (result, d', s') := d.step s
    let (results, d'', s'') := d'.steps n s'
    (result :: results, d'', s'')

/-- The results of steps that perform their commands. -/
def performances (outcomes : List Outcome) : List (Except Fault StepResult) :=
  outcomes.map fun o => .ok (.performed o)

/-- How many commands of the present history have been performed. -/
def performedCount (d : Debugger) : Nat := d.history.size - d.resuming.toNat

/-- A debugger that runs without an operator and has performed `n` commands. -/
structure Unattended (m₀ : Machine) (settings : Settings) (delay : Duration) (n : Nat)
    (d : Debugger) : Prop where
  traced : Traces m₀ n (n + d.resuming.toNat) d
  settings_eq : d.settings = settings
  delay_eq : d.delay = delay
  phase_eq : d.phase = .running
  within : d.history.size ≤ settings.instructionLimit

variable {m₀ : Machine} {settings : Settings} {delay : Duration} {n : Nat} {d d' : Debugger}

theorem Unattended.initial (created : create m₀ settings = .ok d) :
    Unattended m₀ settings d.delay 0 d ∧ d.resuming = false := by
  obtain ⟨delay, rfl⟩ := create_eq_ok created
  exact ⟨⟨⟨rfl, rfl, by simp⟩, rfl, rfl, rfl, Nat.zero_le _⟩, rfl⟩

/-- Where an unattended debugger stands determines all of it. -/
theorem Unattended.unique (standing : Unattended m₀ settings delay n d)
    (standing' : Unattended m₀ settings delay n d') (resuming : d.resuming = d'.resuming) :
    d = d' := by
  have machine := Except.ok.inj (standing.traced.reached.symm.trans standing'.traced.reached)
  have traced := standing.traced
  rw [resuming] at traced
  have history := traced.history_eq standing'.traced
  have settings_eq := standing.settings_eq.trans standing'.settings_eq.symm
  have delay_eq := standing.delay_eq.trans standing'.delay_eq.symm
  have phase_eq := standing.phase_eq.trans standing'.phase_eq.symm
  cases d
  cases d'
  simp_all

theorem Unattended.performedCount_eq (standing : Unattended m₀ settings delay n d) :
    d.performedCount = n := by
  unfold performedCount
  rw [standing.traced.size_eq, Nat.add_sub_cancel]

/-! ## One step -/

/-- Without an operator nothing happens between the opening of a step and its command. -/
theorem Proceeds.eq_of_silent (proceeded : Proceeds d d')
    (silent : d.settings.interactive = false) (running : d.phase = .running) : d' = d := by
  cases proceeded with
  | quiet => rfl
  | arrived armed =>
    rw [running] at armed
    cases armed
  | asked interactive =>
    rw [silent] at interactive
    cases interactive

/-- Opening a step leaves the machine alone and the history within the limit. -/
theorem Unattended.opens (standing : Unattended m₀ settings delay n d) (opened : Opens d d') :
    Traces m₀ n (n + 1) d' ∧ d'.machine = d.machine ∧
      d'.history.size ≤ settings.instructionLimit := by
  refine ⟨standing.traced.opens opened, ?_⟩
  cases opened with
  | again => exact ⟨rfl, standing.within⟩
  | anew _ _ room =>
    rw [standing.settings_eq] at room
    refine ⟨rfl, ?_⟩
    rw [Array.size_push]
    exact Nat.succ_le_of_lt room

/-- A step that performs a command performs the one at which the debugger stands. -/
theorem Unattended.step (standing : Unattended m₀ settings delay n d)
    (silent : settings.interactive = false) {o : Outcome} {s s' : σ}
    (done : d.step s = (.ok (.performed o), d', s')) :
    Unattended m₀ settings delay (n + 1) d' ∧ d'.resuming = false ∧ m₀.Yields n o := by
  cases step_transition done with
  | performed live opened proceeded stepped =>
    obtain ⟨phase, same_settings, same_delay, fresh⟩ := opened.keeps
    obtain ⟨pending, machine, within⟩ := standing.opens opened
    obtain rfl := proceeded.eq_of_silent
      (same_settings ▸ standing.settings_eq ▸ silent) (phase.trans standing.phase_eq)
    refine ⟨⟨?_, same_settings.trans standing.settings_eq, same_delay.trans standing.delay_eq,
      phase.trans standing.phase_eq, within⟩, fresh, _, _, pending.reached, stepped⟩
    simpa only [fresh, Bool.toNat_false, Nat.add_zero] using pending.performs stepped

/-- A debugger that stands at a command that succeeds, with room for it in the history,
performs it. -/
theorem Unattended.performs (standing : Unattended m₀ settings delay n d)
    (silent : settings.interactive = false) {o : Outcome} (yields : m₀.Yields n o)
    (room : n < settings.instructionLimit) (s : σ) :
    ∃ d' s', d.step s = (.ok (.performed o), d', s') := by
  obtain ⟨m, m', reached, stepped⟩ := yields
  obtain rfl := Except.ok.inj (reached.symm.trans standing.traced.reached)
  rcases done : d.step s with ⟨result, d', s'⟩
  cases step_transition done with
  | ended terminated =>
    rw [standing.phase_eq] at terminated
    cases terminated
  | missing _ _ absent =>
    rw [Machine.step_eq_error_of_snapshot absent] at stepped
    cases stepped
  | outgrown _ fresh _ full =>
    have size := standing.traced.size_eq
    rw [fresh, Bool.toNat_false] at size
    rw [standing.settings_eq] at full
    omega
  | left _ opened interactive =>
    rw [opened.keeps.2.1, standing.settings_eq, silent] at interactive
    cases interactive
  | performed _ opened proceeded again =>
    obtain ⟨phase, same_settings, -, -⟩ := opened.keeps
    obtain rfl := proceeded.eq_of_silent
      (same_settings ▸ standing.settings_eq ▸ silent) (phase.trans standing.phase_eq)
    rw [(standing.opens opened).2.1, stepped] at again
    cases again
    exact ⟨_, _, rfl⟩
  | faulted _ opened proceeded failed =>
    obtain ⟨phase, same_settings, -, -⟩ := opened.keeps
    obtain rfl := proceeded.eq_of_silent
      (same_settings ▸ standing.settings_eq ▸ silent) (phase.trans standing.phase_eq)
    rw [(standing.opens opened).2.1, stepped] at failed
    cases failed

/-! ## Several steps -/

/-- The first results of several steps are those of fewer steps. -/
theorem steps_take (d : Debugger) {k n : Nat} (le : k ≤ n) (s : σ) :
    (d.steps k s).1 = (d.steps n s).1.take k := by
  induction k generalizing n d s with
  | zero => rfl
  | succ k ih =>
    obtain ⟨n, rfl⟩ : ∃ n', n = n' + 1 := ⟨n - 1, by omega⟩
    simp only [Debugger.steps, List.take_succ_cons]
    rw [ih _ (Nat.le_of_succ_le_succ le)]

/-- Steps that all perform their commands lead as many commands on, and their outcomes
are those of the run from the start. -/
theorem Unattended.steps (standing : Unattended m₀ settings delay n d)
    (silent : settings.interactive = false) {k : Nat} {s : σ} {outcomes : List Outcome}
    (performed : (d.steps k s).1 = performances outcomes) :
    Unattended m₀ settings delay (n + k) (d.steps k s).2.1 ∧
      (d.resuming = false ∨ 0 < k → (d.steps k s).2.1.resuming = false) ∧
      outcomes.length = k ∧ m₀.YieldsFrom n outcomes := by
  induction k generalizing n d s outcomes with
  | zero =>
    obtain rfl : outcomes = [] := by simpa [Debugger.steps, performances] using performed.symm
    exact ⟨standing, fun fresh => by simpa [Debugger.steps] using fresh, rfl, trivial⟩
  | succ k ih =>
    rcases first : d.step s with ⟨result, d₁, s₁⟩
    cases outcomes with
    | nil => simp [Debugger.steps, performances] at performed
    | cons o outcomes =>
      simp only [Debugger.steps, first, performances, List.map_cons, List.cons.injEq] at performed
      obtain ⟨rfl, rest⟩ := performed
      obtain ⟨next, fresh, yields⟩ := standing.step silent first
      obtain ⟨last, resumed, length, later⟩ := ih next rest
      simp only [Debugger.steps, first]
      refine ⟨?_, fun _ => resumed (.inl fresh), congrArg Nat.succ length, yields, later⟩
      rw [← Nat.add_assoc, Nat.add_right_comm]
      exact last

/-- Commands that succeed on the run from the start are performed again by as many
steps. -/
theorem Unattended.replays (standing : Unattended m₀ settings delay n d)
    (silent : settings.interactive = false) {outcomes : List Outcome}
    (yields : m₀.YieldsFrom n outcomes)
    (room : n + outcomes.length ≤ settings.instructionLimit) (s : σ) :
    (d.steps outcomes.length s).1 = performances outcomes := by
  induction outcomes generalizing n d s with
  | nil => rfl
  | cons o outcomes ih =>
    rw [List.length_cons] at room
    obtain ⟨d₁, s₁, first⟩ := standing.performs silent yields.1 (by omega) s
    obtain ⟨next, -, -⟩ := standing.step silent first
    have rest := ih next yields.2 (by omega) s₁
    simp only [List.length_cons, Debugger.steps, first, performances, List.map_cons] at rest ⊢
    rw [rest]

/-- A debugger that stands on the way of a run steps on to the end of that run. -/
theorem Unattended.steps_on (standing : Unattended m₀ settings delay n d)
    (silent : settings.interactive = false) {last : Debugger} {outcomes : List Outcome}
    (ended : Unattended m₀ settings delay outcomes.length last) (fresh : last.resuming = false)
    (yields : m₀.YieldsFrom 0 outcomes) (on : d.history.size ≤ outcomes.length) (s : σ) :
    (d.steps (outcomes.length - n) s).1 = performances (outcomes.drop n) ∧
      (d.steps (outcomes.length - n) s).2.1 = last := by
  have size := standing.traced.size_eq
  have room := ended.within
  rw [ended.traced.size_eq] at room
  have rest := yields.drop n
  rw [Nat.zero_add] at rest
  have replayed := standing.replays silent rest (by rw [List.length_drop]; omega) s
  rw [List.length_drop] at replayed
  obtain ⟨stands, resumed, -, -⟩ := standing.steps silent replayed
  rw [Nat.add_sub_of_le (by omega)] at stands
  refine ⟨replayed, stands.unique ended ?_⟩
  rw [fresh]
  apply resumed
  cases resuming : d.resuming with
  | false => exact .inl rfl
  | true =>
    rw [resuming, Bool.toNat_true] at size
    exact .inr (by omega)

/-! ## Going back -/

theorem Unattended.backTo (standing : Unattended m₀ settings delay n d) {k : Nat} {h : Snapshot}
    (at_k : d.history[k]? = some h) : Unattended m₀ settings delay k (d.backTo k h) := by
  have traced := standing.traced.backTo at_k
  have bound := (Array.getElem?_eq_some_iff.mp at_k).1
  refine ⟨traced, standing.settings_eq, standing.delay_eq, standing.phase_eq, ?_⟩
  rw [traced.size_eq]
  exact Nat.le_trans bound standing.within

/-- Going back, or trying to, or performing a command. -/
inductive Retraces (d : Debugger) : Debugger → Prop
  | rollback {σ : Type} [Console σ] (index : Nat) (s : σ) : Retraces d (d.rollback index s).2.1
  | step {σ : Type} [Console σ] {o : Outcome} {s s' : σ} {d' : Debugger}
    (done : d.step s = (.ok (.performed o), d', s')) : Retraces d d'

/-- However often it goes back and steps on, an unattended debugger stands on the way of
the run from the start. -/
theorem Unattended.retraces (standing : Unattended m₀ settings delay n d)
    (silent : settings.interactive = false) (travelled : Relation.ReflTransGen Retraces d d') :
    ∃ k, Unattended m₀ settings delay k d' := by
  induction travelled with
  | refl => exact ⟨n, standing⟩
  | tail _ move ih =>
    obtain ⟨k, standing⟩ := ih
    cases move with
    | @rollback _ _ index s =>
      rcases done : Debugger.rollback _ index s with ⟨result, d', s'⟩
      rcases rollback_cases done with ⟨e, -, rfl, -⟩ | ⟨h, -, recorded, rfl⟩
      · exact ⟨k, standing⟩
      · exact ⟨_, standing.backTo recorded⟩
    | step done => exact ⟨k + 1, (standing.step silent done).1⟩

/-- A run of `n` steps without an operator, all of which perform their commands, can be
taken up again at any of them.  Going back to snapshot `k` keeps the first `k + 1` snapshots
and restores the machine in front of that command, and the remaining steps have the same
outcomes and lead to the same debugger.  So they do after any number of rollbacks and
steps in between. -/
theorem rollback_replays {d₀ : Debugger} (created : create m₀ settings = .ok d₀)
    (silent : settings.interactive = false) {s : σ} {outcomes : List Outcome}
    (performed : (d₀.steps n s).1 = performances outcomes) :
    let last := (d₀.steps n s).2.1
    (∀ k < n, ∀ t : τ, ∃ back t',
      last.rollback k t = (.ok (), back, t') ∧
        back.history = last.history.take (k + 1) ∧ back.history.size = k + 1 ∧
        back.machine = (d₀.steps k s).2.1.machine ∧
        (back.steps (n - k) t').1 = performances (outcomes.drop k) ∧
        (back.steps (n - k) t').2.1 = last) ∧
      ∀ d, Relation.ReflTransGen Retraces last d → d.history.size ≤ n → ∀ t : τ,
        (d.steps (n - d.performedCount) t).1 = performances (outcomes.drop d.performedCount) ∧
          (d.steps (n - d.performedCount) t).2.1 = last := by
  intro last
  obtain ⟨standing, fresh⟩ := Unattended.initial created
  obtain ⟨ended, resumed, rfl, yields⟩ := standing.steps silent performed
  have settled : last.resuming = false := resumed (.inl fresh)
  rw [Nat.zero_add] at ended
  constructor
  · intro k lt t
    have bound : k < last.history.size := by
      rw [ended.traced.size_eq]
      exact Nat.lt_add_right _ lt
    have recorded : last.history[k]? = some last.history[k] := Array.getElem?_eq_getElem bound
    have back := ended.backTo recorded
    have size : (last.backTo k last.history[k]).history.size = k + 1 := back.traced.size_eq
    -- The first `k` steps of the run stand where going back leads.
    have first : (d₀.steps k s).1 = performances (outcomes.take k) := by
      rw [steps_take d₀ (Nat.le_of_lt lt) s, performed, performances, ← List.map_take]
      rfl
    obtain ⟨there, -, -, -⟩ := standing.steps silent first
    rw [Nat.zero_add] at there
    refine ⟨last.backTo k last.history[k], Console.note t (.rolledBack k last.history[k].command),
      ?_, rfl, size, ?_, ?_⟩
    · simp only [Debugger.rollback, recorded]
      rfl
    · exact Except.ok.inj (back.traced.reached.symm.trans there.traced.reached)
    · exact back.steps_on silent ended settled yields (size ▸ lt) _
  · intro d travelled on t
    obtain ⟨k, stands⟩ := ended.retraces silent travelled
    rw [stands.performedCount_eq]
    exact stands.steps_on silent ended settled yields on t

/-- Copies values from the input to the output up to the first that is not positive. -/
def copyPositive : Program :=
  ⟨[⟨.read, .immediate 0, 1⟩, ⟨.jgtz, .immediate 4, 2⟩, ⟨.halt, .absent, 3⟩,
    ⟨.write, .immediate 0, 4⟩, ⟨.goto, .immediate 1, 5⟩]⟩

theorem rollback_replays_copyPositive :
    let d₀ : Debugger :=
      ⟨Machine.start copyPositive [5, 0], { logging := true }, ⟨1, 0⟩, #[], .running, false⟩
    let outcome (line next : Nat) : Outcome := ⟨(copyPositive.get? line).getD default, next⟩
    let outcomes :=
      [outcome 1 2, outcome 2 4, outcome 4 5, outcome 5 1, outcome 1 2, outcome 2 3, outcome 3 0]
    let last := (d₀.steps 7 ({} : SilentConsole)).2.1
    create (Machine.start copyPositive [5, 0]) { logging := true } = .ok d₀ ∧
      (d₀.steps 7 ({} : SilentConsole)).1 = performances outcomes ∧
      ∃ back t', last.rollback 2 ({} : SilentConsole) = (.ok (), back, t') ∧
        back.history = last.history.take 3 ∧ back.history.size = 3 ∧
        back.machine = (d₀.steps 2 ({} : SilentConsole)).2.1.machine ∧
        (back.steps 5 t').1 = performances (outcomes.drop 2) ∧ (back.steps 5 t').2.1 = last := by
  intro d₀ outcome outcomes last
  have created : create (Machine.start copyPositive [5, 0]) { logging := true } = .ok d₀ := rfl
  have performed : (d₀.steps 7 ({} : SilentConsole)).1 = performances outcomes := by
    decide +kernel
  exact ⟨created, performed,
    (rollback_replays created rfl performed).1 2 (by decide) ({} : SilentConsole)⟩

end Debugger

end RegisterMachine
