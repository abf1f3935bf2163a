import RegisterMachine.Debug.Session

/-!
# Consoles that cannot be told apart

A debugger sees nothing of its console but the answers to its questions.  Two consoles
that answer alike therefore lead it through the same states to the same end, whatever
they do with what they are shown.

* `Console.Mirrors R`: showing, waiting and noting keep the relation `R` between two
  consoles; `Console.Simulates R` adds that both give the same answer when asked.
* `Debugger.Agree R`: two operations come to the same result and the same debugger, and
  leave related consoles.  `enter_agree` to `run_agree` prove it of every operation;
  those that read nothing need a mirror only.
* `runSession_agree`: sessions on related consoles come to the same report or failure.
* `Transcribed`: any console together with the calls made to it, which simulates the
  console that it is made of (`Transcribed.simulates`).
-/

namespace RegisterMachine

variable {σ τ : Type} [Console σ] [Console τ]

/-- Showing a text, waiting and noting keep the relation. -/
structure Console.Mirrors (R : σ → τ → Prop) : Prop where
  display : ∀ {s : σ} {t : τ}, R s t → ∀ text, R (Console.display s text) (Console.display t text)
  pause : ∀ {s : σ} {t : τ}, R s t → ∀ delay, R (Console.pause s delay) (Console.pause t delay)
  note : ∀ {s : σ} {t : τ}, R s t → ∀ record, R (Console.note s record) (Console.note t record)

/-- All operations keep the relation, and related consoles give the same answers. -/
structure Console.Simulates (R : σ → τ → Prop) : Prop extends Console.Mirrors R where
  ask : ∀ {s : σ} {t : τ}, R s t →
    (Console.ask s).1 = (Console.ask t).1 ∧ R (Console.ask s).2 (Console.ask t).2

namespace Debugger

/-- The same result and the same debugger, and consoles that are related. -/
def Agree {α : Type} (R : σ → τ → Prop) (x : α × Debugger × σ) (y : α × Debugger × τ) : Prop :=
  ∃ a d s t, x = (a, d, s) ∧ y = (a, d, t) ∧ R s t

variable {R : σ → τ → Prop} {s : σ} {t : τ}

omit [Console σ] [Console τ] in
theorem Agree.intro {α : Type} (a : α) (d : Debugger) (related : R s t) :
    Agree R (a, d, s) (a, d, t) :=
  ⟨a, d, s, t, rfl, rfl, related⟩

omit [Console σ] [Console τ] in
theorem Agree.right {α : Type} {x : α × Debugger × σ} {y : α × Debugger × τ} {a : α}
    {d : Debugger} (agree : Agree R x y) (left : x = (a, d, s)) : ∃ t, y = (a, d, t) ∧ R s t := by
  obtain ⟨a', d', s', t, left', right, related⟩ := agree
  cases left.symm.trans left'
  exact ⟨t, right, related⟩

omit [Console σ] in
/-- What every call of a console keeps, an operation on it keeps. -/
theorem Agree.kept {α : Type} {P : σ → Prop} {x : α × Debugger × σ}
    (agree : Agree (fun s t => s = t ∧ P t) x x) : P x.2.2 := by
  obtain ⟨a, d, s, t, here, there, same, kept⟩ := agree
  rw [there]
  exact kept

/-! ## Opening a step -/

theorem draw_agree (mirrors : Console.Mirrors R) (related : R s t) (d : Debugger) :
    Agree R (d.draw s) (d.draw t) := by
  have shown := mirrors.display related d.frame
  unfold draw
  simp only
  split
  · exact .intro _ _ shown
  · exact .intro _ _ (mirrors.pause shown d.delay)

theorem present_agree (mirrors : Console.Mirrors R) (related : R s t) (d : Debugger) :
    Agree R (d.present s) (d.present t) := by
  unfold present
  split
  · split
    · exact draw_agree mirrors related d
    · exact draw_agree mirrors related d
    · split
      · exact draw_agree mirrors (mirrors.note related _) _
      · exact .intro _ _ related
    · exact .intro _ _ related
    · exact .intro _ _ related
  · exact .intro _ _ related

theorem record_agree (mirrors : Console.Mirrors R) (related : R s t) (d : Debugger) :
    Agree R (d.record s) (d.record t) := by
  unfold record
  split
  · exact .intro _ _ related
  · simp only
    split
    · exact .intro _ _ (mirrors.note related _)
    · exact .intro _ _ related

theorem enter_agree (mirrors : Console.Mirrors R) (related : R s t) (d : Debugger) :
    Agree R (d.enter s) (d.enter t) := by
  unfold enter
  split
  · exact .intro _ _ related
  · split
    · exact present_agree mirrors related _
    · obtain ⟨result, d', s', t', left, right, related'⟩ := record_agree mirrors related d
      rw [left, right]
      cases result with
      | error f => exact .intro _ _ related'
      | ok => exact present_agree mirrors related' d'

/-! ## The operator's lines -/

theorem revisit_agree (mirrors : Console.Mirrors R) (related : R s t) (d : Debugger) (index : Nat) :
    Agree R (d.revisit index s) (d.revisit index t) := by
  unfold revisit rollback
  cases d.history[index]? with
  | none => exact .intro _ _ related
  | some h => exact .intro _ _ (mirrors.display (mirrors.note related _) _)

theorem react_agree (mirrors : Console.Mirrors R) (related : R s t) (d : Debugger)
    (command : OperatorCommand) : Agree R (d.react command s) (d.react command t) := by
  cases command with
  | step | exit => exact .intro _ _ related
  | help | states => exact .intro _ _ (mirrors.display related _)
  | proceed => exact .intro _ _ (mirrors.note related _)
  | reset => exact revisit_agree mirrors related d 0
  | rollback index => exact revisit_agree mirrors related d index
  | suspendUntil line =>
    simp only [react]
    cases d.checkBreakpoint line with
    | error e => exact .intro _ _ related
    | ok => exact .intro _ _ (mirrors.display related _)

theorem begin_agree (mirrors : Console.Mirrors R) (related : R s t) (d : Debugger) (line : String) :
    Agree R (d.begin line s) (d.begin line t) := by
  unfold begin
  cases OperatorCommand.parse line with
  | error e => exact .intro _ _ related
  | ok command =>
    exact react_agree mirrors (mirrors.note related (.operatorCommand command.name)) d command

theorem settle_agree (mirrors : Console.Mirrors R) (related : R s t) (d : Debugger) (line : Nat)
    (answer : Option String) : Agree R (d.settle line answer s) (d.settle line answer t) := by
  unfold settle suspendUntil
  split
  · cases d.checkBreakpoint line with
    | error e => exact .intro _ _ related
    | ok => exact .intro _ _ (mirrors.note related _)
  · exact .intro _ _ (mirrors.display related _)

theorem handle_agree (simulates : Console.Simulates R) (related : R s t) (d : Debugger)
    (line : String) : Agree R (d.handle line s) (d.handle line t) := by
  unfold handle
  obtain ⟨result, d', s', t', left, right, related'⟩ :=
    begin_agree simulates.toMirrors related d line
  rw [left, right]
  cases result with
  | error e => exact .intro _ _ related'
  | ok reaction =>
    cases reaction with
    | verdict v => exact .intro _ _ related'
    | confirm target =>
      obtain ⟨same, asked⟩ := simulates.ask related'
      simp only [same]
      exact settle_agree simulates.toMirrors asked d' target (Console.ask t').1

theorem exchange_agree (simulates : Console.Simulates R) (related : R s t) (d : Debugger) :
    Agree R (d.exchange s) (d.exchange t) := by
  obtain ⟨same, asked⟩ := simulates.ask related
  unfold exchange
  rcases left : Console.ask s with ⟨answer, s₁⟩
  rcases right : Console.ask t with ⟨answer', t₁⟩
  rw [left, right] at same asked
  simp only at same asked
  subst same
  cases answer with
  | none => exact .intro _ _ asked
  | some line =>
    obtain ⟨result, d', s', t', left, right, related'⟩ := handle_agree simulates asked d line
    simp only [left, right]
    cases result with
    | error e => exact .intro _ _ (simulates.display related' _)
    | ok v => cases v <;> exact .intro _ _ related'

omit [Console τ] in
/-- A conversation is an exchange, and if that settles nothing the conversation after it. -/
theorem converse_eq (d : Debugger) (s : σ) :
    d.converse s =
      match d.exchange s with
      | (some resumes, d', s') => (resumes, d', s')
      | (none, d', s') => d'.converse s' := by
  rw [converse]
  split <;> rename_i exchanged <;> simp only [exchanged]

theorem converse_agree (simulates : Console.Simulates R) (related : R s t) (d : Debugger) :
    Agree R (d.converse s) (d.converse t) := by
  -- The recursion of the first console carries the other along.
  fun_induction converse d s generalizing t with
  | case1 d s resumes d' s' exchanged =>
    obtain ⟨settled, d₁, s₁, t₁, left, right, related'⟩ := exchange_agree simulates related d
    cases exchanged.symm.trans left
    rw [converse_eq d t, right]
    exact .intro _ _ related'
  | case2 d s d' s' exchanged _ ih =>
    obtain ⟨settled, d₁, s₁, t₁, left, right, related'⟩ := exchange_agree simulates related d
    cases exchanged.symm.trans left
    rw [converse_eq d t, right]
    exact ih related'

/-! ## Steps and runs -/

theorem execute_agree (mirrors : Console.Mirrors R) (related : R s t) (d : Debugger) :
    Agree R (d.execute s) (d.execute t) := by
  rw [execute_eq, execute_eq]
  cases d.machine.step with
  | error f => exact .intro _ _ related
  | ok taken => exact .intro _ _ (mirrors.note related _)

theorem step_agree (simulates : Console.Simulates R) (related : R s t) (d : Debugger) :
    Agree R (d.step s) (d.step t) := by
  obtain ⟨opening, d', s', t', left, right, related'⟩ := enter_agree simulates.toMirrors related d
  unfold step
  rw [left, right]
  cases opening with
  | exited | faulted => exact .intro _ _ related'
  | ready => exact execute_agree simulates.toMirrors related' d'
  | prompting =>
    obtain ⟨resumes, d'', s'', t'', left, right, related''⟩ := converse_agree simulates related' d'
    simp only [left, right]
    cases resumes with
    | false => exact .intro _ _ related''
    | true => exact execute_agree simulates.toMirrors related'' d''

omit [Console τ] in
/-- A run is a step, and if that performs its command the run after it. -/
theorem run_eq (d : Debugger) (s : σ) :
    d.run s =
      if d.machine.isHalted then (.ok .halted, d, s)
      else
        match d.step s with
        | (.error f, d', s') => (.error f, d', s')
        | (.ok .exited, d', s') => (.ok .exited, d', s')
        | (.ok (.performed _), d', s') => d'.run s' := by
  rw [run]
  split
  · rfl
  · split <;> rename_i stepped <;> simp only [stepped]

theorem run_agree (simulates : Console.Simulates R) (related : R s t) (d : Debugger) :
    Agree R (d.run s) (d.run t) := by
  fun_induction run d s generalizing t with
  | case1 d s halted =>
    rw [run_eq d t, if_pos halted]
    exact .intro _ _ related
  | case2 d s running f d' s' stepped | case3 d s running d' s' stepped =>
    obtain ⟨result, d₁, s₁, t₁, left, right, related'⟩ := step_agree simulates related d
    cases stepped.symm.trans left
    rw [run_eq d t, if_neg running, right]
    exact .intro _ _ related'
  | case4 d s running o d' s' stepped _ ih =>
    obtain ⟨result, d₁, s₁, t₁, left, right, related'⟩ := step_agree simulates related d
    cases stepped.symm.trans left
    rw [run_eq d t, if_neg running, right]
    exact ih related'

end Debugger

theorem concludeSession_agree {R : σ → τ → Prop} (mirrors : Console.Mirrors R)
    {x : Except Fault SessionEnd × Debugger × σ} {y : Except Fault SessionEnd × Debugger × τ}
    (agree : Debugger.Agree R x y) :
    (concludeSession x).1 = (concludeSession y).1 ∧
      R (concludeSession x).2 (concludeSession y).2 := by
  obtain ⟨result, d, s, t, rfl, rfl, related⟩ := agree
  cases result with
  | error f => exact ⟨rfl, related⟩
  | ok ending => exact ⟨rfl, mirrors.note related _⟩

/-- Sessions on related consoles come to the same and leave related consoles. -/
theorem runSession_agree {R : σ → τ → Prop} (simulates : Console.Simulates R) {s : σ} {t : τ}
    (related : R s t) (program : Program) (input : List Value) (settings : Settings) :
    (runSession program input settings s).1 = (runSession program input settings t).1 ∧
      R (runSession program input settings s).2 (runSession program input settings t).2 := by
  unfold runSession
  cases Debugger.create (Machine.start program input) settings with
  | error e => exact ⟨rfl, related⟩
  | ok d => exact concludeSession_agree simulates.toMirrors (Debugger.run_agree simulates related d)

/-! ## Transcripts -/

/-- One call of an operation of a console, with the answer to a question. -/
inductive Call where
  | shown (text : String)
  | read (answer : Option String)
  | paused (delay : Duration)
  | noted (record : Record)
  deriving DecidableEq

/-- A console and the calls that were made to it. -/
structure Transcribed (σ : Type) where
  console : σ
  calls : List Call

namespace Transcribed

/-- A console to which no call has been made yet. -/
def start (s : σ) : Transcribed σ := ⟨s, []⟩

instance : Console (Transcribed σ) where
  display t text := ⟨Console.display t.console text, t.calls ++ [.shown text]⟩
  ask t := ((Console.ask t.console).1,
    ⟨(Console.ask t.console).2, t.calls ++ [.read (Console.ask t.console).1]⟩)
  pause t delay := ⟨Console.pause t.console delay, t.calls ++ [.paused delay]⟩
  note t record := ⟨Console.note t.console record, t.calls ++ [.noted record]⟩
  pending t := Console.pending t.console
  pending_display t := Console.pending_display t.console
  pending_ask t := Console.pending_ask t.console
  pending_ask_lt t := Console.pending_ask_lt t.console
  pending_pause t := Console.pending_pause t.console
  pending_note t := Console.pending_note t.console

omit [Console σ] in
theorem console_start (s : σ) : (start s).console = s := rfl

omit [Console σ] in
@[simp] theorem calls_start (s : σ) : (start s).calls = [] := rfl

@[simp] theorem calls_display (t : Transcribed σ) (text : String) :
    (Console.display t text).calls = t.calls ++ [.shown text] := rfl

@[simp] theorem calls_ask (t : Transcribed σ) :
    (Console.ask t).2.calls = t.calls ++ [.read (Console.ask t).1] := rfl

@[simp] theorem calls_pause (t : Transcribed σ) (delay : Duration) :
    (Console.pause t delay).calls = t.calls ++ [.paused delay] := rfl

@[simp] theorem calls_note (t : Transcribed σ) (record : Record) :
    (Console.note t record).calls = t.calls ++ [.noted record] := rfl

/-- Keeping a transcript changes nothing for the console. -/
theorem simulates : Console.Simulates fun (s : σ) (t : Transcribed σ) => t.console = s where
  display := by
    rintro s t rfl text
    rfl
  pause := by
    rintro s t rfl delay
    rfl
  note := by
    rintro s t rfl record
    rfl
  ask := by
    rintro s t rfl
    exact ⟨rfl, rfl⟩

omit [Console σ] in
/-- An operation on the console comes to what it comes to with a transcript. -/
theorem eq_of_agree {α : Type} {x : α × Debugger × σ} {y : α × Debugger × Transcribed σ}
    (agree : Debugger.Agree (fun s t => t.console = s) x y) :
    x = (y.1, y.2.1, y.2.2.console) := by
  obtain ⟨a, d, s, t, rfl, rfl, rfl⟩ := agree
  rfl

end Transcribed

namespace Debugger

/-! A console goes through an operation as it does with a transcript. -/

theorem enter_plain (d : Debugger) (t : Transcribed σ) :
    d.enter t.console = ((d.enter t).1, (d.enter t).2.1, (d.enter t).2.2.console) :=
  Transcribed.eq_of_agree (enter_agree Transcribed.simulates.toMirrors rfl d)

theorem exchange_plain (d : Debugger) (t : Transcribed σ) :
    d.exchange t.console = ((d.exchange t).1, (d.exchange t).2.1, (d.exchange t).2.2.console) :=
  Transcribed.eq_of_agree (exchange_agree Transcribed.simulates rfl d)

theorem converse_plain (d : Debugger) (t : Transcribed σ) :
    d.converse t.console = ((d.converse t).1, (d.converse t).2.1, (d.converse t).2.2.console) :=
  Transcribed.eq_of_agree (converse_agree Transcribed.simulates rfl d)

theorem step_plain (d : Debugger) (t : Transcribed σ) :
    d.step t.console = ((d.step t).1, (d.step t).2.1, (d.step t).2.2.console) :=
  Transcribed.eq_of_agree (step_agree Transcribed.simulates rfl d)

end Debugger

end RegisterMachine
