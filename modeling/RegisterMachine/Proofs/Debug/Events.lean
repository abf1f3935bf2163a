import RegisterMachine.Proofs.Debug.Reachable
import RegisterMachine.Proofs.Debug.Simulation

/-!
# What happens while a debugger is operated

A transcript holds the calls of a console, but not which of the shown texts are frames,
nor when a command is attempted or a step returns.  An `Event` says that too, and a frame
comes with the debugger that shows it.

* `enterEvents` to `runEvents` are the events of the operations, part by part.  All that
  the opening of a step shows are frames, and so is what a line shows that goes back.
* `Happens`: calls of operations in any order, each on a console of its own, with the
  events and the transcript of all of them.  A console bounds its lines; one that does not
  makes no difference to a call that returns (`Returns.on_script`).
* `Happens.calls`: the events are the transcript, with marks added.
-/

namespace RegisterMachine

/-- What can happen while a debugger is operated. -/
inductive Event where
  /-- The debugger `d` shows a frame. -/
  | frame (text : String) (d : Debugger)
  /-- Any other call of a console. -/
  | call (c : Call)
  /-- A command is about to be performed. -/
  | attempt (c : Command)
  /-- A step returns; `left` if the operator has left its prompt. -/
  | returned (result : Except Fault StepResult) (left : Bool)
  deriving DecidableEq

/-- The call that an event is. -/
def Event.call? : Event → Option Call
  | .frame text _ => some (.shown text)
  | .call c => some c
  | .attempt _ | .returned _ _ => none

/-- Whether a call notes that the run goes back. -/
def Call.goesBack : Call → Bool
  | .noted (.rolledBack _ _) => true
  | _ => false

/-- A call where all that is shown are frames of `d`. -/
def Call.framed (d : Debugger) : Call → Event
  | .shown text => .frame text d
  | c => .call c

theorem Call.call?_framed (d : Debugger) (c : Call) : (c.framed d).call? = some c := by
  cases c <;> rfl

theorem filterMap_call?_framed (d : Debugger) (calls : List Call) :
    (calls.map (Call.framed d)).filterMap Event.call? = calls := by
  induction calls with
  | nil => rfl
  | cons c calls ih => rw [List.map_cons, List.filterMap_cons_some (c.call?_framed d), ih]

theorem filterMap_call?_call (calls : List Call) :
    (calls.map Event.call).filterMap Event.call? = calls := by
  induction calls with
  | nil => rfl
  | cons c calls ih => exact congrArg (List.cons c) ih

variable {σ : Type} [Console σ]

namespace Debugger

/-- The calls of a line that leads to `d`: what it shows is a frame if it goes back. -/
def lineEvents (d : Debugger) (calls : List Call) : List Event :=
  if calls.any Call.goesBack then calls.map (Call.framed d) else calls.map .call

theorem lineEvents_calls (d : Debugger) (calls : List Call) :
    (d.lineEvents calls).filterMap Event.call? = calls := by
  unfold lineEvents
  split
  · exact filterMap_call?_framed d calls
  · exact filterMap_call?_call calls

/-! ## The events of the operations -/

/-- What happens while a step is opened. -/
def enterEvents (d : Debugger) (s : σ) : List Event :=
  let (_, d', t) := d.enter (Transcribed.start s)
  t.calls.map (Call.framed d')

/-- What happens while a line is handled. -/
def handleEvents (d : Debugger) (line : String) (s : σ) : List Event :=
  let (_, d', t) := d.handle line (Transcribed.start s)
  d'.lineEvents t.calls

/-- What happens in one exchange with the operator. -/
def exchangeEvents (d : Debugger) (s : σ) : List Event :=
  let (_, d', t) := d.exchange (Transcribed.start s)
  d'.lineEvents t.calls

/-- What happens in a conversation. -/
def converseEvents (d : Debugger) (s : σ) : List Event :=
  d.exchangeEvents s ++
    match h : d.exchange s with
    | (some _, _, _) => []
    | (none, d', s') =>
      have := (exchange_follows h).2 (by simp)
      d'.converseEvents s'
termination_by Console.pending s

/-- What happens while the pending command is performed. -/
def executeEvents (d : Debugger) (s : σ) : List Event :=
  let (result, _, t) := d.execute (Transcribed.start s)
  match d.machine.current with
  | .ok c => .attempt c :: t.calls.map .call ++ [.returned result false]
  | .error _ => t.calls.map .call ++ [.returned result false]

/-- What happens in a step. -/
def stepEvents (d : Debugger) (s : σ) : List Event :=
  d.enterEvents s ++
    match d.enter s with
    | (.faulted f, _, _) => [.returned (.error f) false]
    | (.exited, _, _) => [.returned (.ok .exited) false]
    | (.ready, d', s') => d'.executeEvents s'
    | (.prompting, d', s') =>
      d'.converseEvents s' ++
        match d'.converse s' with
        | (true, d'', s'') => d''.executeEvents s''
        | (false, _, _) => [.returned (.ok .exited) true]

/-- What happens in a run. -/
def runEvents (d : Debugger) (s : σ) : List Event :=
  if d.machine.isHalted then []
  else
    d.stepEvents s ++
      match h : d.step s with
      | (.error _, _, _) => []
      | (.ok .exited, _, _) => []
      | (.ok (.performed _), d', s') =>
        have := budget_decreases h
        d'.runEvents s'
termination_by d.budget s

/-- One call of an operation, on any console, with its events and its transcript. -/
inductive Performs (d : Debugger) : List Event → List Call → Debugger → Prop
  | step {σ : Type} [Console σ] (s : σ) :
    Performs d (d.stepEvents s) (d.step (Transcribed.start s)).2.2.calls (d.step s).2.1
  | run {σ : Type} [Console σ] (s : σ) :
    Performs d (d.runEvents s) (d.run (Transcribed.start s)).2.2.calls (d.run s).2.1
  | rollback {σ : Type} [Console σ] {index : Nat} {s : σ} {result : Except OperatorError Unit}
    {d' : Debugger} {t : Transcribed σ}
    (done : d.rollback index (Transcribed.start s) = (result, d', t)) :
    Performs d (t.calls.map .call) t.calls d'
  | suspendUntil {σ : Type} [Console σ] {line : Nat} {s : σ} {result : Except OperatorError Unit}
    {d' : Debugger} {t : Transcribed σ}
    (done : d.suspendUntil line (Transcribed.start s) = (result, d', t)) :
    Performs d (t.calls.map .call) t.calls d'
  | continueSilently {σ : Type} [Console σ] {s : σ} {d' : Debugger} {t : Transcribed σ}
    (done : d.continueSilently (Transcribed.start s) = (d', t)) :
    Performs d (t.calls.map .call) t.calls d'
  | handle {σ : Type} [Console σ] (line : String) (s : σ) :
    Performs d (d.handleEvents line s) (d.handle line (Transcribed.start s)).2.2.calls
      (d.handle line s).2.1

/-- Calls of operations, one after the other, with their events and their transcripts. -/
inductive Happens (d₀ : Debugger) : List Event → List Call → Debugger → Prop
  | nothing : Happens d₀ [] [] d₀
  | next {events events' : List Event} {calls calls' : List Call} {d d' : Debugger}
    (before : Happens d₀ events calls d) (performed : Performs d events' calls' d') :
    Happens d₀ (events ++ events') (calls ++ calls') d'

theorem Performs.operates {d d' : Debugger} {events : List Event} {calls : List Call}
    (performed : Performs d events calls d') : Operates d d' := by
  cases performed with
  | step s => exact .step s
  | run s => exact .run s
  | @rollback _ _ index s _ _ _ done =>
    have operated := Operates.rollback (d := d) index (Transcribed.start s)
    rw [done] at operated
    exact operated
  | @suspendUntil _ _ line s _ _ _ done =>
    have operated := Operates.suspendUntil (d := d) line (Transcribed.start s)
    rw [done] at operated
    exact operated
  | @continueSilently _ _ s _ _ done =>
    cases done
    exact .continueSilently s
  | handle line s => exact .handle line s

theorem Happens.reachable {d₀ d : Debugger} {events : List Event} {calls : List Call}
    (happened : Happens d₀ events calls d) : Reachable d₀ d := by
  induction happened with
  | nothing => exact .refl
  | next _ performed ih => exact ih.tail performed.operates

/-! ## Events and transcripts -/

section Transcripts

/-- Calls that were made before make no difference. -/
theorem after_simulates (calls : List Call) :
    Console.Simulates fun t u : Transcribed σ => t = ⟨u.console, calls ++ u.calls⟩ where
  display := by
    rintro _ u rfl text
    exact congrArg (Transcribed.mk _) (List.append_assoc ..)
  pause := by
    rintro _ u rfl delay
    exact congrArg (Transcribed.mk _) (List.append_assoc ..)
  note := by
    rintro _ u rfl record
    exact congrArg (Transcribed.mk _) (List.append_assoc ..)
  ask := by
    rintro _ u rfl
    exact ⟨rfl, congrArg (Transcribed.mk _) (List.append_assoc ..)⟩

omit [Console σ] in
theorem after_start (t : Transcribed σ) :
    t = ⟨(Transcribed.start t.console).console, t.calls ++ (Transcribed.start t.console).calls⟩ :=
  congrArg (Transcribed.mk _) (List.append_nil _).symm

omit [Console σ] in
theorem Agree.calls {α : Type} {calls : List Call} {x y : α × Debugger × Transcribed σ}
    (agree : Agree (fun t u => t = ⟨u.console, calls ++ u.calls⟩) x y) :
    x.2.2.calls = calls ++ y.2.2.calls := by
  obtain ⟨a, d, t, u, rfl, rfl, rfl⟩ := agree
  rfl

theorem enter_calls (d : Debugger) (t : Transcribed σ) :
    (d.enter t).2.2.calls = t.calls ++ (d.enterEvents t.console).filterMap Event.call? := by
  rw [(enter_agree (after_simulates t.calls).toMirrors (after_start t) d).calls]
  simp only [enterEvents, filterMap_call?_framed]

theorem handle_calls (d : Debugger) (line : String) (t : Transcribed σ) :
    (d.handle line t).2.2.calls =
      t.calls ++ (d.handleEvents line t.console).filterMap Event.call? := by
  rw [(handle_agree (after_simulates t.calls) (after_start t) d line).calls]
  simp only [handleEvents, lineEvents_calls]

theorem exchange_calls (d : Debugger) (t : Transcribed σ) :
    (d.exchange t).2.2.calls = t.calls ++ (d.exchangeEvents t.console).filterMap Event.call? := by
  rw [(exchange_agree (after_simulates t.calls) (after_start t) d).calls]
  simp only [exchangeEvents, lineEvents_calls]

theorem execute_calls (d : Debugger) (t : Transcribed σ) :
    (d.execute t).2.2.calls = t.calls ++ (d.executeEvents t.console).filterMap Event.call? := by
  rw [(execute_agree (after_simulates t.calls).toMirrors (after_start t) d).calls]
  unfold executeEvents
  cases d.machine.current with
  | error | ok =>
    simp only [List.cons_append, List.filterMap_cons, List.filterMap_append, Event.call?,
      filterMap_call?_call, List.filterMap_nil, List.append_nil]

theorem converseEvents_eq (d : Debugger) (s : σ) :
    d.converseEvents s =
      d.exchangeEvents s ++
        match d.exchange s with
        | (some _, _, _) => []
        | (none, d', s') => d'.converseEvents s' := by
  rw [converseEvents]
  split <;> rename_i exchanged <;> simp only [exchanged]

theorem converse_calls (d : Debugger) (t : Transcribed σ) :
    (d.converse t).2.2.calls = t.calls ++ (d.converseEvents t.console).filterMap Event.call? := by
  fun_induction converse d t with
  | case1 d t resumes d' t' exchanged =>
    have plain := exchange_plain d t
    have calls := exchange_calls d t
    rw [exchanged] at plain calls
    rw [converseEvents_eq, plain, List.append_nil]
    exact calls
  | case2 d t d' t' exchanged _ ih =>
    have plain := exchange_plain d t
    have calls := exchange_calls d t
    rw [exchanged] at plain calls
    rw [ih, converseEvents_eq d, plain, calls, List.filterMap_append, List.append_assoc]

theorem step_calls (d : Debugger) (t : Transcribed σ) :
    (d.step t).2.2.calls = t.calls ++ (d.stepEvents t.console).filterMap Event.call? := by
  have entry := enter_plain d t
  have opening := enter_calls d t
  unfold step stepEvents
  rcases entered : d.enter t with ⟨result, d₁, t₁⟩
  rw [entered] at entry opening
  rw [entry, List.filterMap_append, ← List.append_assoc, ← opening]
  cases result with
  | exited | faulted => simp [Event.call?]
  | ready => exact execute_calls d₁ t₁
  | prompting =>
    have talk := converse_plain d₁ t₁
    have told := converse_calls d₁ t₁
    simp only
    rcases conversed : d₁.converse t₁ with ⟨resumes, d₂, t₂⟩
    rw [conversed] at talk told
    rw [talk, List.filterMap_append, ← List.append_assoc, ← told]
    cases resumes with
    | false => simp [Event.call?]
    | true => exact execute_calls d₂ t₂

theorem runEvents_eq (d : Debugger) (s : σ) :
    d.runEvents s =
      if d.machine.isHalted then []
      else
        d.stepEvents s ++
          match d.step s with
          | (.ok (.performed _), d', s') => d'.runEvents s'
          | _ => [] := by
  rw [runEvents]
  split
  · rfl
  · split <;> rename_i stepped <;> simp only [stepped]

theorem run_calls (d : Debugger) (t : Transcribed σ) :
    (d.run t).2.2.calls = t.calls ++ (d.runEvents t.console).filterMap Event.call? := by
  fun_induction run d t with
  | case1 d t halted => simp [runEvents_eq, halted]
  | case2 d t running f d' t' stepped | case3 d t running d' t' stepped =>
    have plain := step_plain d t
    have calls := step_calls d t
    rw [stepped] at plain calls
    rw [runEvents_eq, if_neg running, plain, List.append_nil]
    exact calls
  | case4 d t running o d' t' stepped _ ih =>
    have plain := step_plain d t
    have calls := step_calls d t
    rw [stepped] at plain calls
    rw [ih, runEvents_eq d, if_neg running, plain, calls, List.filterMap_append, List.append_assoc]

end Transcripts

theorem Performs.calls {d d' : Debugger} {events : List Event} {calls : List Call}
    (performed : Performs d events calls d') : events.filterMap Event.call? = calls := by
  cases performed with
  | step s => simp only [step_calls, Transcribed.start, List.nil_append]
  | run s => simp only [run_calls, Transcribed.start, List.nil_append]
  | rollback | suspendUntil | continueSilently => exact filterMap_call?_call _
  | handle line s => simp only [handle_calls, Transcribed.start, List.nil_append]

/-- The events are the transcript, with marks added. -/
theorem Happens.calls {d₀ d : Debugger} {events : List Event} {calls : List Call}
    (happened : Happens d₀ events calls d) : events.filterMap Event.call? = calls := by
  induction happened with
  | nothing => rfl
  | next _ performed ih => rw [List.filterMap_append, ih, performed.calls]

end Debugger

end RegisterMachine
