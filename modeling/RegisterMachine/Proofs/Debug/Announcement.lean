import RegisterMachine.Proofs.Debug.Events
import RegisterMachine.Proofs.Debug.Timeline

/-!
# What is shown is what is performed

A frame marks the command of the last snapshot as the next one.  Between the frame and
that command there may be any number of lines, further frames and, for a line that is
given outside a prompt, whole calls of other operations.

* `Depicts`: a frame is the frame of the present state.
* `Notice`: what the last frame announces.  `Event.notice` follows it through the events,
  and `Event.Fits` is what it demands of the next one; `Tells` puts the two together.
* `Opened` and `Stands`: the invariants inside a step and between two calls, by which the
  events of every part of a step fit.
* `frames_announce`: whatever calls are made, the command that is attempted next is the
  one that the last frame shows.
-/

namespace RegisterMachine

/-- The text is the frame of a history that ends with `h`, and `h` is the present state. -/
structure Depicts (settings : Settings) (text : String) (d : Debugger) (h : Snapshot) : Prop where
  last : d.history.back? = some h
  text_eq : text = renderFrame d.history h.registers settings.frameRows
  instructionPointer : h.instructionPointer = d.machine.instructionPointer
  inputPointer : h.inputPointer = d.machine.inputPointer
  output : h.output = d.machine.output
  registers : h.registers = d.machine.registers

/-- The snapshot that a frame has shown last, and whether the operator has left a prompt
since. -/
structure Notice where
  snapshot : Snapshot
  left : Bool

namespace Event

/-- Whether a frame that was shown before announces nothing any more: the run has gone back,
or its command was attempted. -/
def concludes : Event → Bool
  | .call c => c.goesBack
  | .attempt _ => true
  | .frame _ _ | .returned _ _ => false

/-- What is announced after an event. -/
def notice (n : Option Notice) : Event → Option Notice
  | .frame _ d => d.history.back?.map (⟨·, false⟩)
  | .call c => if c.goesBack then none else n
  | .attempt _ => none
  | .returned _ left => n.map fun n => { n with left := n.left || left }

/-- What an announcement demands of the next event. -/
def Fits (settings : Settings) (n : Option Notice) : Event → Prop
  | .frame text d => ∃ h, Depicts settings text d h ∧ ∀ notice ∈ n, notice.snapshot = h
  | .call _ => True
  | .attempt c => ∀ notice ∈ n, notice.snapshot.command = c
  | .returned result left => (left = true → result = .ok .exited) ∧
    (result ≠ .ok .exited → ∀ notice ∈ n,
      notice.left = true ∧ result = .error (.limitExceeded settings.instructionLimit))

end Event

/-- Events that fit, each with what is announced by those before it. -/
inductive Tells (settings : Settings) : Option Notice → List Event → Option Notice → Prop
  | nil {n : Option Notice} : Tells settings n [] n
  | cons {n n' : Option Notice} {e : Event} {events : List Event} (fits : e.Fits settings n)
    (rest : Tells settings (e.notice n) events n') : Tells settings n (e :: events) n'

section Tells

variable {settings : Settings} {n n' n'' : Option Notice} {events events' : List Event}

theorem Tells.single {e : Event} (fits : e.Fits settings n) :
    Tells settings n [e] (e.notice n) :=
  .cons fits .nil

theorem Tells.append (first : Tells settings n events n') (second : Tells settings n' events' n'') :
    Tells settings n (events ++ events') n'' := by
  induction first with
  | nil => exact second
  | cons fits _ ih => exact .cons fits (ih second)

theorem Tells.split (told : Tells settings n (events ++ events') n'') :
    ∃ n', Tells settings n events n' ∧ Tells settings n' events' n'' := by
  induction events generalizing n with
  | nil => exact ⟨n, .nil, told⟩
  | cons e events ih =>
    cases told with
    | cons fits rest =>
      obtain ⟨n', first, second⟩ := ih rest
      exact ⟨n', .cons fits first, second⟩

/-- Calls that do not go back leave an announcement as it is. -/
theorem Tells.calls {calls : List Call} (quiet : ∀ c ∈ calls, c.goesBack = false) :
    Tells settings n (calls.map .call) n := by
  induction calls with
  | nil => exact .nil
  | cons c calls ih =>
    have same : (Event.call c).notice n = n := by
      simp [Event.notice, quiet c List.mem_cons_self]
    refine .cons trivial ?_
    rw [same]
    exact ih fun c mem => quiet c (List.mem_cons_of_mem _ mem)

/-- Until an event concludes it, an announcement stands: the next event fits it, and is told
that the operator has left a prompt only if one of the events between says so. -/
theorem Tells.stands {notice : Notice} {between after : List Event} {e : Event}
    (told : Tells settings (some notice) (between ++ e :: after) n')
    (standing : ∀ x ∈ between, x.concludes = false) :
    ∃ notice', notice'.snapshot = notice.snapshot ∧ e.Fits settings (some notice') ∧
      (notice'.left = true → notice.left = true ∨ .returned (.ok .exited) true ∈ between) := by
  induction between generalizing notice with
  | nil =>
    cases told with
    | cons fits _ => exact ⟨notice, rfl, fits, .inl⟩
  | cons x between ih =>
    have here := standing x List.mem_cons_self
    have later : ∀ x ∈ between, x.concludes = false :=
      fun x mem => standing x (List.mem_cons_of_mem _ mem)
    cases told with
    | cons fits rest =>
      cases x with
      | frame text d =>
        obtain ⟨h, depicts, same⟩ := fits
        simp only [Event.notice, depicts.last, Option.map_some] at rest
        obtain ⟨notice', snapshot, fits', left⟩ := ih rest later
        refine ⟨notice', snapshot.trans (same notice rfl).symm, fits', fun yes => ?_⟩
        exact .inr (List.mem_cons_of_mem _ ((left yes).resolve_left nofun))
      | call c =>
        simp only [Event.concludes] at here
        simp only [Event.notice, here, Bool.false_eq_true, if_false] at rest
        obtain ⟨notice', snapshot, fits', left⟩ := ih rest later
        exact ⟨notice', snapshot, fits', fun yes => (left yes).imp_right (List.mem_cons_of_mem _)⟩
      | attempt c => cases here
      | returned result leaves =>
        simp only [Event.notice, Option.map_some] at rest
        obtain ⟨notice', snapshot, fits', left⟩ := ih rest later
        refine ⟨notice', snapshot, fits', fun yes => ?_⟩
        rcases left yes with before | mem
        · cases leaves with
          | false => exact .inl (by simpa using before)
          | true =>
            cases fits.1 rfl
            exact .inr List.mem_cons_self
        · exact .inr (List.mem_cons_of_mem _ mem)

end Tells

namespace Debugger

variable {σ : Type} [Console σ] {m₀ : Machine} {settings : Settings} {n : Option Notice}
  {d d' : Debugger}

/-! ## The invariants -/

/-- Inside a step: the announced command is the pending one. -/
structure Opened (m₀ : Machine) (settings : Settings) (n : Option Notice) (d : Debugger) : Prop where
  timeline : Timeline m₀ d
  pending : Pending m₀ d
  settings_eq : d.settings = settings
  announced : ∀ notice ∈ n, d.history.back? = some notice.snapshot

/-- Between two calls: the debugger is where the announced command is, and takes up that
state again unless the operator has left a prompt. -/
def Stands (m₀ : Machine) (n : Option Notice) (d : Debugger) : Prop :=
  ∀ notice ∈ n, d.history.back? = some notice.snapshot ∧
    d.machine = m₀.restore notice.snapshot ∧ (notice.left = true ∨ d.resuming = true)

theorem Opened.congr (opened : Opened m₀ settings n d) (machine : d'.machine = d.machine)
    (history : d'.history = d.history) (same : d'.settings = d.settings) :
    Opened m₀ settings n d' := by
  obtain ⟨_, _, _, _, _, _⟩ := d'
  cases machine
  cases history
  cases same
  obtain ⟨timeline, pending, settings_eq, announced⟩ := opened
  exact ⟨⟨timeline.first, timeline.fetched, timeline.linked, timeline.kept, timeline.live,
    fun _ => pending⟩, pending, settings_eq, announced⟩

/-- The frame of an opened step shows the pending command, and so does what was announced. -/
theorem Opened.depicts (opened : Opened m₀ settings n d) :
    ∃ h, Depicts settings d.frame d h ∧ d.machine.current = .ok h.command ∧
      ∀ notice ∈ n, notice.snapshot = h := by
  obtain ⟨h, last, standing⟩ := opened.pending
  have fetched := opened.timeline.fetched (Array.back?_eq_getElem? ▸ last)
  have text : d.frame = renderFrame d.history h.registers settings.frameRows := by
    rw [frame, opened.settings_eq, standing]
    rfl
  refine ⟨h, ⟨last, text, congrArg Machine.instructionPointer standing.symm,
    congrArg Machine.inputPointer standing.symm, congrArg Machine.output standing.symm,
    congrArg Machine.registers standing.symm⟩, ?_, ?_⟩
  · rw [standing, Machine.current]
    simp only [Machine.restore, fetched]
  · intro notice announced
    exact Option.some.inj ((opened.announced notice announced).symm.trans last)

/-- Calls that show nothing but the frame of an opened step announce its command. -/
theorem Opened.framed (opened : Opened m₀ settings n d) {calls : List Call}
    (frames : ∀ c ∈ calls, c.goesBack = false ∧ ∀ text, c = .shown text → text = d.frame) :
    ∃ n', Tells settings n (calls.map (Call.framed d)) n' ∧ Opened m₀ settings n' d := by
  induction calls generalizing n with
  | nil => exact ⟨n, .nil, opened⟩
  | cons c calls ih =>
    obtain ⟨quiet, shows⟩ := frames c List.mem_cons_self
    have later := fun c mem => frames c (List.mem_cons_of_mem _ mem)
    cases c with
    | shown text =>
      cases shows text rfl
      obtain ⟨h, depicts, -, same⟩ := opened.depicts
      have shown : Opened m₀ settings (some ⟨h, false⟩) d :=
        ⟨opened.timeline, opened.pending, opened.settings_eq, by simpa using depicts.last⟩
      obtain ⟨n', rest, opened'⟩ := ih shown later
      refine ⟨n', .cons ⟨h, depicts, same⟩ ?_, opened'⟩
      simpa only [Call.framed, Event.notice, depicts.last, Option.map_some] using rest
    | read | paused | noted =>
      obtain ⟨n', rest, opened'⟩ := ih opened later
      refine ⟨n', .cons trivial ?_, opened'⟩
      simpa only [Call.framed, Event.notice, quiet, Bool.false_eq_true, if_false] using rest

/-- An opened step that is abandoned leaves the debugger where the announced command is. -/
theorem Opened.stands (opened : Opened m₀ settings n d)
    (again : ∀ notice ∈ n, notice.left = true ∨ d.resuming = true) : Stands m₀ n d := by
  intro notice announced
  have last := opened.announced notice announced
  obtain ⟨h, last', standing⟩ := opened.pending
  obtain rfl := Option.some.inj (last.symm.trans last')
  exact ⟨last, standing, again notice announced⟩

/-! ## Lines -/

theorem Quiet.calls {t t' : Transcribed σ} (quiet : Quiet t t')
    (before : ∀ c ∈ t.calls, c.goesBack = false) : ∀ c ∈ t'.calls, c.goesBack = false := by
  have more {calls : List Call} {c : Call} (ih : ∀ c ∈ calls, c.goesBack = false)
      (last : c.goesBack = false) : ∀ c' ∈ calls ++ [c], c'.goesBack = false := by
    intro c' mem
    rcases List.mem_append.mp mem with mem | mem
    · exact ih c' mem
    · rw [List.mem_singleton.mp mem]
      exact last
  induction quiet with
  | refl => exact before
  | display | ask | pause => exact more ‹_› rfl
  | @note _ _ record other ih =>
    refine more ih ?_
    cases record with
    | rolledBack index command => exact absurd rfl (other index command)
    | _ => rfl

theorem lineEvents_tells {calls : List Call} (quiet : ∀ c ∈ calls, c.goesBack = false) :
    Tells settings n (d.lineEvents calls) n := by
  have none : calls.any Call.goesBack = false := by simpa using quiet
  simp only [lineEvents, none, Bool.false_eq_true, if_false]
  exact .calls quiet

/-- A line that goes back announces the command of where it has gone. -/
theorem GoesBack.tells {t t' : Transcribed σ} {line : String} {command : OperatorCommand}
    {result : Except OperatorError Verdict} {index : Nat} {h : Snapshot}
    (back : GoesBack d line t result d' t' command index h) (timeline : Timeline m₀ d)
    (same : d.settings = settings) (quiet : ∀ c ∈ t.calls, c.goesBack = false)
    (plain : t.calls.map (Call.framed d') = t.calls.map .call) :
    ∃ n', Tells settings n (d'.lineEvents t'.calls) n' ∧ Opened m₀ settings n' d' := by
  obtain ⟨timeline', pending'⟩ := timeline.backTo back.recorded
  have opened : Opened m₀ settings none d' := by
    rw [back.debugger]
    exact ⟨timeline', pending', same, nofun⟩
  have calls : t'.calls = t.calls ++ [.noted (.operatorCommand command.name)] ++
      [.noted (.rolledBack index h.command)] ++ [.shown d'.frame] := by
    rw [back.console, back.debugger]
    rfl
  have goes : t'.calls.any Call.goesBack = true := by simp [calls, Call.goesBack]
  have frames : ∀ c ∈ [Call.shown d'.frame],
      c.goesBack = false ∧ ∀ text, c = .shown text → text = d'.frame := by
    simp [Call.goesBack]
  obtain ⟨n', shown, opened'⟩ := opened.framed frames
  refine ⟨n', ?_, opened'⟩
  simp only [lineEvents, goes, if_true]
  rw [calls, List.map_append, List.map_append, List.map_append, plain]
  have before : Tells settings n (t.calls.map .call) n := .calls quiet
  have named : Tells settings n [.call (.noted (.operatorCommand command.name))] n :=
    .cons trivial .nil
  have cleared : Tells settings n [.call (.noted (.rolledBack index h.command))] none :=
    .cons trivial .nil
  exact ((before.append named).append cleared).append shown

/-- A line given inside a step keeps it opened. -/
theorem Opened.line (opened : Opened m₀ settings n d) {line : String} {t t' : Transcribed σ}
    {result : Except OperatorError Verdict} (asked : t.calls = [.read (some line)])
    (handled : d.handle line t = (result, d', t')) :
    (Opened m₀ settings n d' ∧ ∀ c ∈ t'.calls, c.goesBack = false) ∨
      (result = .ok .stay ∧
        ∃ n', Tells settings n (d'.lineEvents t'.calls) n' ∧ Opened m₀ settings n' d') := by
  have quiet : ∀ c ∈ t.calls, c.goesBack = false := by simp [asked, Call.goesBack]
  rcases handle_goes handled with ⟨phase, rfl, silent⟩ | ⟨command, index, h, back⟩
  · exact .inl ⟨opened.congr rfl rfl rfl, silent.calls quiet⟩
  · refine .inr ⟨back.stays, back.tells opened.timeline opened.settings_eq quiet ?_⟩
    rw [asked]
    rfl

theorem exchange_tells (opened : Opened m₀ settings n d) {s s' : σ} {settled : Option Bool}
    (done : d.exchange s = (settled, d', s')) :
    ∃ n', Tells settings n (d.exchangeEvents s) n' ∧ Opened m₀ settings n' d' := by
  obtain ⟨t, transcribed, -⟩ :=
    (exchange_agree Transcribed.simulates (Transcribed.console_start s) d).right done
  simp only [exchangeEvents, transcribed]
  have read {answer : Option String} {t₁ : Transcribed σ}
      (asked : Console.ask (Transcribed.start s) = (answer, t₁)) : t₁.calls = [.read answer] := by
    have calls := Transcribed.calls_ask (Transcribed.start s)
    rw [asked] at calls
    exact calls
  cases exchange_exchanges transcribed with
  | closed asked =>
    refine ⟨n, lineEvents_tells ?_, opened.congr rfl rfl rfl⟩
    simp [read asked, Call.goesBack]
  | resumed asked handled | left asked handled =>
    rcases opened.line (read asked) handled with ⟨opened', quiet⟩ | ⟨other, -⟩
    · exact ⟨n, lineEvents_tells quiet, opened'.congr rfl rfl rfl⟩
    · cases other
  | stayed asked handled =>
    rcases opened.line (read asked) handled with ⟨opened', quiet⟩ | ⟨-, told⟩
    · exact ⟨n, lineEvents_tells quiet, opened'⟩
    · exact told
  | refused asked handled =>
    rcases opened.line (read asked) handled with ⟨opened', quiet⟩ | ⟨other, -⟩
    · exact ⟨n, lineEvents_tells (Quiet.calls (.display .refl _) quiet), opened'⟩
    · cases other

theorem converse_tells (opened : Opened m₀ settings n d) {s s' : σ} {resumes : Bool}
    (done : d.converse s = (resumes, d', s')) :
    ∃ n', Tells settings n (d.converseEvents s) n' ∧ Opened m₀ settings n' d' := by
  fun_induction converse d s generalizing n with
  | case1 d s resumes d₁ s₁ exchanged =>
    cases done
    rw [converseEvents_eq, exchanged, List.append_nil]
    exact exchange_tells opened exchanged
  | case2 d s d₁ s₁ exchanged _ ih =>
    obtain ⟨n₁, first, opened₁⟩ := exchange_tells opened exchanged
    obtain ⟨n', rest, opened'⟩ := ih opened₁ done
    rw [converseEvents_eq, exchanged]
    exact ⟨n', first.append rest, opened'⟩

/-! ## Steps -/

/-- The announced command is attempted, which settles the announcement. -/
theorem execute_tells (opened : Opened m₀ settings n d) (s : σ) :
    Tells settings n (d.executeEvents s) none := by
  obtain ⟨h, -, current, same⟩ := opened.depicts
  have quiet : ∀ c ∈ (d.execute (Transcribed.start s)).2.2.calls, c.goesBack = false := by
    rw [execute_eq]
    split
    · simp
    · simp [Call.goesBack]
  have attempted : Tells settings n [.attempt h.command] none := by
    refine .single ?_
    intro notice announced
    rw [same notice announced]
  have returned {result : Except Fault StepResult} :
      Tells settings none [.returned result false] none := .single ⟨nofun, fun _ => nofun⟩
  simp only [executeEvents, current]
  exact (attempted.append (.calls quiet)).append returned

/-- The opening of a step shows nothing but its frame. -/
theorem present_calls (d : Debugger) (s : σ) :
    ∀ c ∈ (d.present (Transcribed.start s)).2.2.calls,
      c.goesBack = false ∧ ∀ text, c = .shown text → text = d.frame := by
  have drawn (d : Debugger) (t : Transcribed σ) :
      (d.draw t).2.2.calls = t.calls ++ [.shown d.frame] ∨
        (d.draw t).2.2.calls = t.calls ++ [.shown d.frame] ++ [.paused d.delay] := by
    unfold draw
    simp only
    split
    · exact .inl rfl
    · exact .inr rfl
  unfold present
  split
  · split
    · rcases drawn d (Transcribed.start s) with calls | calls <;> simp [calls, Call.goesBack]
    · rcases drawn d (Transcribed.start s) with calls | calls <;> simp [calls, Call.goesBack]
    · rename_i line _
      split
      · rcases drawn { d with phase := .running }
          (Console.note (Transcribed.start s) (.breakpointHit line)) with calls | calls <;>
          simp [calls, Call.goesBack, frame]
      · simp
    · simp
    · simp
  · simp

/-- What is recorded where a command is announced is the announced snapshot again. -/
theorem Stands.recorded (stands : Stands m₀ n d) (timeline : Timeline m₀ d) {notice : Notice}
    (announced : notice ∈ n) {h : Snapshot} (snapshot : d.machine.snapshot = .ok h) :
    (d.history.push h).back? = some notice.snapshot := by
  obtain ⟨last, standing, -⟩ := stands notice announced
  obtain ⟨h', last', taken⟩ := Pending.snapshot ⟨_, last, standing⟩ timeline
  cases snapshot.symm.trans taken
  rw [Array.back?_push, ← last', last]

/-- A step that opens records the announced snapshot again, or takes it up. -/
theorem Stands.opens (stands : Stands m₀ n d) (timeline : Timeline m₀ d)
    (same : d.settings = settings) (opened : Opens d d') : Opened m₀ settings n d' := by
  obtain ⟨timeline', pending'⟩ := timeline.opens opened
  refine ⟨timeline', pending', opened.keeps.2.1.trans same, fun notice announced => ?_⟩
  cases opened with
  | again => exact (stands notice announced).1
  | anew _ snapshot => exact stands.recorded timeline announced snapshot

theorem enter_tells (stands : Stands m₀ n d) (timeline : Timeline m₀ d)
    (same : d.settings = settings) {s s' : σ} {opening : Opening}
    (entered : d.enter s = (opening, d', s')) (on : opening = .ready ∨ opening = .prompting) :
    ∃ n', Tells settings n (d.enterEvents s) n' ∧ Opened m₀ settings n' d' := by
  obtain ⟨t, transcribed, -⟩ :=
    (enter_agree Transcribed.simulates.toMirrors (Transcribed.console_start s) d).right entered
  simp only [enterEvents, transcribed]
  cases enter_begins transcribed with
  | exited | missing | outgrown => simp at on
  | @opened d₁ _ _ _ _ opened presented =>
    obtain ⟨phase, shown⟩ := present_phase d₁ (Transcribed.start s)
    have frames := present_calls d₁ s
    rw [presented] at shown frames
    simp only at shown frames
    subst shown
    have opened' : Opened m₀ settings n { d₁ with phase } :=
      (stands.opens timeline same opened).congr rfl rfl rfl
    exact opened'.framed frames

theorem Stands.nothing : Stands m₀ none d := nofun

/-- A step that fails while it is opened shows no frame: there is no command to record, or the
limit is exceeded. -/
theorem enterEvents_faulted {s s' : σ} {f : Fault} (entered : d.enter s = (.faulted f, d', s')) :
    (d.enterEvents s = [] ∧ d' = d ∧ d.machine.snapshot = .error f) ∨
      (d.enterEvents s = [.call (.noted (.historyExceeded d.settings.instructionLimit))] ∧
        d.resuming = false ∧ f = .limitExceeded d.settings.instructionLimit ∧
        ∃ h, d.machine.snapshot = .ok h ∧ d' = { d with history := d.history.push h }) := by
  obtain ⟨t, transcribed, -⟩ :=
    (enter_agree Transcribed.simulates.toMirrors (Transcribed.console_start s) d).right entered
  simp only [enterEvents, transcribed]
  cases enter_begins transcribed with
  | missing _ _ absent => exact .inl ⟨rfl, rfl, absent⟩
  | outgrown _ fresh snapshot => exact .inr ⟨rfl, fresh, rfl, _, snapshot, rfl⟩
  | opened _ _ presented =>
    rcases present_cases presented with ⟨other, -⟩ | ⟨other, -⟩ <;> cases other

/-- Where a command is announced, only the limit can keep a step from recording, and only if
the operator has left that command before. -/
theorem enter_faulted (stands : Stands m₀ n d) (timeline : Timeline m₀ d)
    (same : d.settings = settings) {s s' : σ} {f : Fault}
    (entered : d.enter s = (.faulted f, d', s')) :
    Tells settings n (d.enterEvents s ++ [.returned (.error f) false]) n ∧ Stands m₀ n d' := by
  have returned (fits : Event.Fits settings n (.returned (.error f) false)) :
      Tells settings n [.returned (.error f) false] n := by
    simpa [Event.notice] using Tells.single fits
  rcases enterEvents_faulted entered with
    ⟨silent, rfl, absent⟩ | ⟨noted, fresh, rfl, h, snapshot, rfl⟩
  · rw [silent]
    refine ⟨returned ⟨nofun, fun _ notice announced => ?_⟩, stands⟩
    obtain ⟨last, standing, -⟩ := stands notice announced
    obtain ⟨h, -, taken⟩ := Pending.snapshot ⟨_, last, standing⟩ timeline
    cases absent.symm.trans taken
  · rw [noted]
    refine ⟨.cons trivial (returned ⟨nofun, fun _ notice announced => ?_⟩),
      fun notice announced => ?_⟩
    · obtain ⟨-, -, left | resuming⟩ := stands notice announced
      · exact ⟨left, by rw [same]⟩
      · rw [fresh] at resuming
        cases resuming
    · obtain ⟨-, standing, again⟩ := stands notice announced
      exact ⟨stands.recorded timeline announced snapshot, standing, again⟩

/-- The events of a step fit what was announced before it. -/
theorem step_tells (stands : Stands m₀ n d) (timeline : Timeline m₀ d)
    (same : d.settings = settings) (s : σ) :
    ∃ n', Tells settings n (d.stepEvents s) n' ∧ Stands m₀ n' (d.step s).2.1 := by
  rcases entered : d.enter s with ⟨opening, d₁, s₁⟩
  cases opening with
  | ready =>
    obtain ⟨n₁, shown, opened⟩ := enter_tells stands timeline same entered (.inl rfl)
    refine ⟨none, ?_, .nothing⟩
    simp only [stepEvents, entered]
    exact shown.append (execute_tells opened s₁)
  | prompting =>
    obtain ⟨n₁, shown, opened⟩ := enter_tells stands timeline same entered (.inr rfl)
    rcases conversed : d₁.converse s₁ with ⟨resumes, d₂, s₂⟩
    obtain ⟨n₂, told, opened₂⟩ := converse_tells opened conversed
    simp only [stepEvents, step, entered, conversed]
    cases resumes with
    | true => exact ⟨none, shown.append (told.append (execute_tells opened₂ s₂)), .nothing⟩
    | false =>
      have returned : Event.Fits settings n₂ (.returned (.ok .exited) true) :=
        ⟨fun _ => rfl, fun other => absurd rfl other⟩
      refine ⟨_, shown.append (told.append (.single returned)), ?_⟩
      simp only [Event.notice, Bool.or_true]
      have left : Opened m₀ settings (n₂.map fun n => { n with left := true }) d₂ := by
        refine ⟨opened₂.timeline, opened₂.pending, opened₂.settings_eq, fun notice announced => ?_⟩
        obtain ⟨earlier, before, rfl⟩ := Option.map_eq_some_iff.mp announced
        exact opened₂.announced earlier before
      refine left.stands fun notice announced => .inl ?_
      obtain ⟨earlier, -, rfl⟩ := Option.map_eq_some_iff.mp announced
      rfl
  | exited =>
    cases enter_enters entered with
    | exited ended =>
      have silent : d.enterEvents s = [] := by simp [enterEvents, enter, ended]
      have returned : Tells settings n [.returned (.ok .exited) false] n := by
        have fits : Event.Fits settings n (.returned (.ok .exited) false) :=
          ⟨nofun, fun other => absurd rfl other⟩
        simpa [Event.notice] using Tells.single fits
      simp only [stepEvents, step, entered, silent]
      exact ⟨n, returned, stands⟩
  | faulted f =>
    simp only [stepEvents, step, entered]
    exact ⟨n, enter_faulted stands timeline same entered⟩

/-- Frames that are shown in a list of events before the last attempt are followed by it. -/
theorem attempt_mem {xs ys before after : List Event} {c : Command} {text : String} {d₁ : Debugger}
    (eq : xs ++ .attempt c :: ys = before ++ .frame text d₁ :: after)
    (last : .frame text d₁ ∉ ys) : .attempt c ∈ after := by
  rcases List.append_eq_append_iff.mp eq with ⟨zs, -, rest⟩ | ⟨zs, -, rest⟩
  · cases zs with
    | nil => cases rest
    | cons z zs =>
      cases rest
      exact absurd (List.mem_append_right _ List.mem_cons_self) last
  · cases zs with
    | nil => cases rest
    | cons z zs =>
      cases rest
      exact List.mem_append_right _ List.mem_cons_self

/-- A step that shows a frame and does not end the session attempts a command after it. -/
theorem step_attempts (stands : Stands m₀ n d) (timeline : Timeline m₀ d)
    (same : d.settings = settings) {s : σ} {before after : List Event} {text : String}
    {d₁ : Debugger} (shown : d.stepEvents s = before ++ .frame text d₁ :: after)
    (on : (d.step s).1 ≠ .ok .exited) : ∃ c, .attempt c ∈ after := by
  have attempted {n₂ : Option Notice} {d₂ : Debugger} {s₂ : σ} {events : List Event}
      (opened : Opened m₀ settings n₂ d₂)
      (shown : events ++ d₂.executeEvents s₂ = before ++ .frame text d₁ :: after) :
      ∃ c, .attempt c ∈ after := by
    obtain ⟨h, -, current, -⟩ := opened.depicts
    simp only [executeEvents, current, List.cons_append] at shown
    exact ⟨h.command, attempt_mem shown (by simp)⟩
  rcases entered : d.enter s with ⟨opening, d₂, s₂⟩
  simp only [stepEvents, step, entered] at shown on
  cases opening with
  | exited => exact absurd rfl on
  | faulted f =>
    have frameless : .frame text d₁ ∉ d.enterEvents s ++ [.returned (.error f) false] := by
      rcases enterEvents_faulted entered with ⟨silent, -⟩ | ⟨noted, -⟩
      · simp [silent]
      · simp [noted]
    exact absurd (shown ▸ List.mem_append_right _ List.mem_cons_self) frameless
  | ready =>
    obtain ⟨n₂, -, opened⟩ := enter_tells stands timeline same entered (.inl rfl)
    exact attempted opened shown
  | prompting =>
    obtain ⟨n₂, -, opened⟩ := enter_tells stands timeline same entered (.inr rfl)
    rcases conversed : d₂.converse s₂ with ⟨resumes, d₃, s₃⟩
    obtain ⟨n₃, -, opened₃⟩ := converse_tells opened conversed
    simp only [conversed] at shown on
    cases resumes with
    | false => exact absurd rfl on
    | true =>
      rw [← List.append_assoc] at shown
      exact attempted opened₃ shown

/-! ## Calls of operations -/

theorem run_tells (stands : Stands m₀ n d) (timeline : Timeline m₀ d)
    (same : d.settings = settings) (s : σ) :
    ∃ n', Tells settings n (d.runEvents s) n' ∧ Stands m₀ n' (d.run s).2.1 := by
  fun_induction run d s generalizing n with
  | case1 d s halted =>
    rw [runEvents_eq, if_pos halted]
    exact ⟨n, .nil, stands⟩
  | case2 d s running f d' s' stepped | case3 d s running d' s' stepped =>
    obtain ⟨n', told, stands'⟩ := step_tells stands timeline same s
    rw [stepped] at stands'
    rw [runEvents_eq, if_neg running, stepped, List.append_nil]
    exact ⟨n', told, stands'⟩
  | case4 d s running o d' s' stepped _ ih =>
    obtain ⟨n₁, first, stands₁⟩ := step_tells stands timeline same s
    rw [stepped] at stands₁
    have moved := step_transition stepped
    obtain ⟨n', rest, stands'⟩ := ih stands₁ (timeline.transition moved) (moved.settings.trans same)
    rw [runEvents_eq, if_neg running, stepped]
    exact ⟨n', first.append rest, stands'⟩

theorem handle_tells (stands : Stands m₀ n d) (timeline : Timeline m₀ d)
    (same : d.settings = settings) (line : String) (s : σ) :
    ∃ n', Tells settings n (d.handleEvents line s) n' ∧ Stands m₀ n' (d.handle line s).2.1 := by
  rcases done : d.handle line s with ⟨result, d', s'⟩
  obtain ⟨t, transcribed, -⟩ :=
    (handle_agree Transcribed.simulates (Transcribed.console_start s) d line).right done
  simp only [handleEvents, transcribed]
  rcases handle_goes transcribed with ⟨phase, rfl, silent⟩ | ⟨command, index, h, back⟩
  · exact ⟨n, lineEvents_tells (silent.calls (by simp)), stands⟩
  · obtain ⟨n', told, opened⟩ := back.tells timeline same (by simp) rfl
    refine ⟨n', told, opened.stands fun _ _ => .inr ?_⟩
    rw [back.debugger]
    rfl

theorem Performs.tells {events : List Event} {calls : List Call}
    (performed : Performs d events calls d') (stands : Stands m₀ n d) (timeline : Timeline m₀ d)
    (same : d.settings = settings) :
    ∃ n', Tells settings n events n' ∧ Stands m₀ n' d' := by
  cases performed with
  | step s => exact step_tells stands timeline same s
  | run s => exact run_tells stands timeline same s
  | handle line s => exact handle_tells stands timeline same line s
  | rollback done =>
    unfold Debugger.rollback at done
    split at done <;> cases done
    · exact ⟨n, .nil, stands⟩
    · exact ⟨none, .single trivial, .nothing⟩
  | suspendUntil done =>
    unfold Debugger.suspendUntil at done
    split at done <;> cases done
    · exact ⟨n, .nil, stands⟩
    · exact ⟨n, .single trivial, stands⟩
  | continueSilently done =>
    cases done
    exact ⟨n, .single trivial, stands⟩

theorem Happens.keeps {d₀ : Debugger} (created : create m₀ settings = .ok d₀)
    {events : List Event} {calls : List Call} (happened : Happens d₀ events calls d) :
    Timeline m₀ d ∧ d.settings = settings := by
  have timeline :=
    happened.reachable.induct Timeline.transition Timeline.handles (Timeline.initial created)
  have same := happened.reachable.settings
  obtain ⟨delay, rfl⟩ := create_eq_ok created
  exact ⟨timeline, same⟩

theorem Happens.tells {d₀ : Debugger} (created : create m₀ settings = .ok d₀)
    {events : List Event} {calls : List Call} (happened : Happens d₀ events calls d) :
    ∃ n, Tells settings none events n ∧ Stands m₀ n d := by
  induction happened with
  | nothing => exact ⟨none, .nil, .nothing⟩
  | next before performed ih =>
    obtain ⟨n, first, stands⟩ := ih
    obtain ⟨timeline, same⟩ := before.keeps created
    obtain ⟨n', second, stands'⟩ := performed.tells stands timeline same
    exact ⟨n', first.append second, stands'⟩

/-- Whatever calls are made, on whatever consoles that bound their lines:

* every frame is the frame of the present state, which the last snapshot of the history
  holds;
* the next command that is attempted after a frame is the command of that snapshot, unless
  the run goes back in between;
* a step that shows a frame and does not end the session attempts a command after it;
* no later step returns before the command is attempted or the run goes back, except to say
  that the session has ended, or that the limit is exceeded.  The latter takes an operator who
  has left the prompt of a step in between: the snapshot has to be recorded once more then.
-/
theorem frames_announce {d₀ : Debugger} (created : create m₀ settings = .ok d₀)
    {events : List Event} {calls : List Call} (happened : Happens d₀ events calls d) :
    events.filterMap Event.call? = calls ∧
    (∀ text d₁, .frame text d₁ ∈ events → ∃ h, Depicts settings text d₁ h) ∧
    (∀ before text d₁ between e after, events = before ++ .frame text d₁ :: between ++ e :: after →
      (∀ x ∈ between, x.concludes = false) →
      (∀ c, e = .attempt c → ∃ h, d₁.history.back? = some h ∧ h.command = c) ∧
      ∀ result left, e = .returned result left → result ≠ .ok .exited →
        .returned (.ok .exited) true ∈ between ∧
          result = .error (.limitExceeded settings.instructionLimit)) ∧
    ∀ (s : σ) before text d₁ after, d.stepEvents s = before ++ .frame text d₁ :: after →
      (d.step s).1 ≠ .ok .exited → ∃ c, .attempt c ∈ after := by
  obtain ⟨n, told, stands⟩ := happened.tells created
  refine ⟨happened.calls, ?_, ?_, ?_⟩
  · intro text d₁ shown
    obtain ⟨before, after, rfl⟩ := List.append_of_mem shown
    obtain ⟨n₁, -, rest⟩ := told.split
    cases rest with
    | cons fits _ =>
      obtain ⟨h, depicts, -⟩ := fits
      exact ⟨h, depicts⟩
  · rintro before text d₁ between e after rfl standing
    rw [List.append_assoc] at told
    obtain ⟨n₁, -, rest⟩ := told.split
    cases rest with
    | cons fits rest =>
      obtain ⟨h, depicts, -⟩ := fits
      simp only [Event.notice, depicts.last, Option.map_some] at rest
      obtain ⟨notice, snapshot, fits, left⟩ := rest.stands standing
      constructor
      · rintro c rfl
        have same : notice.snapshot = h := snapshot
        exact ⟨h, depicts.last, same ▸ fits notice rfl⟩
      · rintro result leaves rfl other
        obtain ⟨yes, limit⟩ := fits.2 other notice rfl
        exact ⟨(left yes).resolve_left nofun, limit⟩
  · intro s before text d₁ after shown on
    obtain ⟨timeline, same⟩ := happened.keeps created
    exact step_attempts stands timeline same shown on

/-- A command is performed, gone back to from outside a prompt and again from inside the next
one, and performed once more. -/
theorem frames_announce_revisited :
    let m₀ := Machine.start ⟨[⟨.load, .immediate 1, 1⟩, ⟨.halt, .immediate 0, 2⟩]⟩ []
    let settings : Settings := { instructionLimit := 1, interactive := true }
    let d₀ : Debugger := ⟨m₀, settings, ⟨1, 0⟩, #[], .running, false⟩
    let operator : Script := { answers := [some ""] }
    let other : Script := { answers := [some "reset", some ""] }
    let d₁ := (d₀.step operator).2.1
    let d₂ := (d₁.handle "rollback 0" operator).2.1
    let events := d₀.stepEvents operator ++ d₁.handleEvents "rollback 0" operator ++
      d₂.stepEvents other
    create m₀ settings = .ok d₀ ∧
      events.countP (fun e => e matches .frame _ _) = 4 ∧
      events.filter (fun e => e matches .attempt _) =
        [.attempt ⟨.load, .immediate 1, 1⟩, .attempt ⟨.load, .immediate 1, 1⟩] ∧
      ∀ text d, .frame text d ∈ events → ∃ h, Depicts settings text d h := by
  intro m₀ settings d₀ operator other d₁ d₂ events
  have created : create m₀ settings = .ok d₀ := rfl
  have first : Happens d₀ _ _ d₁ := .next .nothing (.step operator)
  have happened : Happens d₀ events _ _ :=
    (first.next (.handle "rollback 0" operator)).next (.step other)
  exact ⟨created, by decide +kernel, by decide +kernel,
    (frames_announce created happened (σ := Script)).2.1⟩

/-- The exception is there: the frame of a rollback outside a prompt is followed by a step that
the operator leaves, and by one that neither ends the session nor attempts anything. -/
theorem announcement_left_behind :
    let m₀ := Machine.start ⟨[⟨.load, .immediate 1, 1⟩, ⟨.halt, .immediate 0, 2⟩]⟩ []
    let settings : Settings := { instructionLimit := 1, interactive := true }
    let d₀ : Debugger := ⟨m₀, settings, ⟨1, 0⟩, #[], .running, false⟩
    let operator : Script := { answers := [some ""] }
    let leaver : Script := { answers := [some "exit"] }
    let d₁ := (d₀.step operator).2.1
    let d₂ := (d₁.handle "rollback 0" leaver).2.1
    let d₃ := (d₂.step leaver).2.1
    let d₄ := (d₃.continueSilently leaver).1
    create m₀ settings = .ok d₀ ∧
      (d₁.handleEvents "rollback 0" leaver).any (fun e => e matches .frame _ _) = true ∧
      (d₂.step leaver).1 = .ok .exited ∧ (d₂.stepEvents leaver).any Event.concludes = false ∧
      (d₄.step leaver).1 = .error (.limitExceeded 1) ∧
      (d₄.stepEvents leaver).any Event.concludes = false := by
  decide +kernel

end Debugger

end RegisterMachine
