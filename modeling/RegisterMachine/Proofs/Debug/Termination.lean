import RegisterMachine.Proofs.Debug.Replay
import RegisterMachine.Proofs.Debug.Simulation

/-!
# Sessions end

A run steps until the program halts, faults or is left by the operator.  A program may
go on for ever and an operator may go back as often as there are lines to read, so
neither of them alone ends a run; the limit and the lines together do.  The lines are
bounded by `Console.pending`; without a bound a prompt need not end (`not_returns_help`).

* `Stops` and `run_unrolls`: a run is a number of steps that perform their commands, and
  then a step that does not, or no step for a machine that has halted.
* `Transcribed.lines` and `Transcribed.questions`: the lines that were read, and how
  often the operator was asked for one.
* `tally`: the limit for each line that was read, and the snapshots in the history.  A
  step that gets to its command raises it (`Arrives.tally`): without a line it records a
  snapshot, and with one it may cut the history down, but to no more than the limit.
* `run_ends`: with `n` lines read, a run performs at most `(n + 1) * limit` commands.
-/

namespace RegisterMachine

/-- Whether a call read a line. -/
def Call.isLine : Call → Bool
  | .read (some _) => true
  | _ => false

/-- Whether a call asked for a line. -/
def Call.isQuestion : Call → Bool
  | .read _ => true
  | _ => false

variable {σ τ : Type} [Console σ] [Console τ]

namespace Transcribed

/-- How many lines were read. -/
def lines (t : Transcribed σ) : Nat := t.calls.countP Call.isLine

/-- How often a line was asked for. -/
def questions (t : Transcribed σ) : Nat := t.calls.countP Call.isQuestion

theorem lines_ask (t : Transcribed σ) :
    (Console.ask t).2.lines = t.lines + if (Console.ask t).1.isSome then 1 else 0 := by
  rw [lines, lines, calls_ask, List.countP_append]
  cases (Console.ask t).1 <;> rfl

theorem questions_ask (t : Transcribed σ) : (Console.ask t).2.questions = t.questions + 1 := by
  rw [questions, questions, calls_ask, List.countP_append]
  rfl

/-- Showing, waiting and noting read nothing. -/
theorem mirrors_counts (lines questions : Nat) :
    Console.Mirrors fun t u : Transcribed σ =>
      t = u ∧ u.lines = lines ∧ u.questions = questions where
  display := by
    rintro t _ ⟨rfl, rfl, rfl⟩ text
    exact ⟨rfl, List.countP_append .., List.countP_append ..⟩
  pause := by
    rintro t _ ⟨rfl, rfl, rfl⟩ delay
    exact ⟨rfl, List.countP_append .., List.countP_append ..⟩
  note := by
    rintro t _ ⟨rfl, rfl, rfl⟩ record
    exact ⟨rfl, List.countP_append .., List.countP_append ..⟩

end Transcribed

namespace Debugger

/-! ## Runs as steps -/

theorem steps_agree {R : σ → τ → Prop} (simulates : Console.Simulates R) {s : σ} {t : τ}
    (related : R s t) (d : Debugger) (n : Nat) : Agree R (d.steps n s) (d.steps n t) := by
  induction n generalizing d s t with
  | zero => exact .intro _ _ related
  | succ n ih =>
    obtain ⟨result, d', s', t', left, right, related'⟩ := step_agree simulates related d
    obtain ⟨results, d'', s'', t'', left', right', related''⟩ := ih related' d'
    simp only [steps, left, right, left', right']
    exact .intro _ _ related''

/-- What a run comes to when it makes no more than one step, which performs nothing. -/
inductive Stops (d : Debugger) (s : σ) : Except Fault SessionEnd × Debugger × σ → Prop
  | halted (halted : d.machine.isHalted = true) : Stops d s (.ok .halted, d, s)
  | exited {d' : Debugger} {s' : σ} (running : d.machine.isHalted = false)
    (left : d.step s = (.ok .exited, d', s')) : Stops d s (.ok .exited, d', s')
  | faulted {f : Fault} {d' : Debugger} {s' : σ} (running : d.machine.isHalted = false)
    (failed : d.step s = (.error f, d', s')) : Stops d s (.error f, d', s')

/-- A run is a number of steps that perform their commands, and then stops. -/
theorem run_unrolls (d : Debugger) (s : σ) :
    ∃ outcomes, (d.steps outcomes.length s).1 = performances outcomes ∧
      Stops (d.steps outcomes.length s).2.1 (d.steps outcomes.length s).2.2 (d.run s) := by
  fun_induction run d s with
  | case1 d s halted => exact ⟨[], rfl, .halted halted⟩
  | case2 d s running f d' s' stepped =>
    have running : d.machine.isHalted = false := by simpa using running
    exact ⟨[], rfl, .faulted running stepped⟩
  | case3 d s running d' s' stepped =>
    have running : d.machine.isHalted = false := by simpa using running
    exact ⟨[], rfl, .exited running stepped⟩
  | case4 d s running o d' s' stepped _ ih =>
    obtain ⟨outcomes, performed, stops⟩ := ih
    refine ⟨o :: outcomes, ?_, ?_⟩
    · simp only [List.length_cons, steps, stepped, performed]
      rfl
    · simpa only [List.length_cons, steps, stepped] using stops

/-- Stopping with a transcript is stopping without it. -/
theorem Stops.plain {d d' : Debugger} {t t' : Transcribed σ} {result : Except Fault SessionEnd}
    (stops : Stops d t (result, d', t')) : Stops d t.console (result, d', t'.console) := by
  have stepped := step_plain d t
  cases stops with
  | halted halted => exact .halted halted
  | exited running left =>
    rw [left] at stepped
    exact .exited running stepped
  | faulted running failed =>
    rw [failed] at stepped
    exact .faulted running stepped

/-! ## Lines and questions -/

section Counts

variable {d d' : Debugger} {t t' : Transcribed σ}

theorem enter_counts (d : Debugger) (t : Transcribed σ) :
    (d.enter t).2.2.lines = t.lines ∧ (d.enter t).2.2.questions = t.questions :=
  (enter_agree (Transcribed.mirrors_counts ..) ⟨rfl, rfl, rfl⟩ d).kept

theorem execute_counts (d : Debugger) (t : Transcribed σ) :
    (d.execute t).2.2.lines = t.lines ∧ (d.execute t).2.2.questions = t.questions :=
  (execute_agree (Transcribed.mirrors_counts ..) ⟨rfl, rfl, rfl⟩ d).kept

/-- An operator's line may ask for one more, to confirm a breakpoint. -/
theorem handle_counts {line : String} {result : Except OperatorError Verdict}
    (done : d.handle line t = (result, d', t')) :
    t.lines ≤ t'.lines ∧ t'.questions ≤ t.questions + 1 := by
  have begun : (d.begin line t).2.2.lines = t.lines ∧
      (d.begin line t).2.2.questions = t.questions :=
    (begin_agree (Transcribed.mirrors_counts ..) ⟨rfl, rfl, rfl⟩ d line).kept
  unfold handle at done
  split at done <;> rename_i d₁ t₁ began <;> rw [began] at begun
  · cases done
    exact ⟨Nat.le_of_eq begun.1.symm, Nat.le_succ_of_le (Nat.le_of_eq begun.2)⟩
  · cases done
    exact ⟨Nat.le_of_eq begun.1.symm, Nat.le_succ_of_le (Nat.le_of_eq begun.2)⟩
  · rename_i target
    have lines := t₁.lines_ask
    have questions := t₁.questions_ask
    rcases asked : Console.ask t₁ with ⟨answer, t₂⟩
    have settled : (d₁.settle target answer t₂).2.2.lines = t₂.lines ∧
        (d₁.settle target answer t₂).2.2.questions = t₂.questions :=
      (settle_agree (Transcribed.mirrors_counts ..) ⟨rfl, rfl, rfl⟩ d₁ target answer).kept
    rcases ended : d₁.settle target answer t₂ with ⟨v, d₂, t₃⟩
    rw [ended] at settled
    simp only [asked, ended] at done lines questions begun settled
    cases done
    omega

/-- An exchange that does not end the session reads a line, and asks at most twice for
each line that it reads.  One that ends it may ask once more. -/
theorem exchange_counts {settled : Option Bool} (done : d.exchange t = (settled, d', t')) :
    t.lines ≤ t'.lines ∧ (settled ≠ some false → t.lines < t'.lines) ∧
      t'.questions + 2 * t.lines ≤
        t.questions + 2 * t'.lines + if settled = some false then 1 else 0 := by
  have lines := t.lines_ask
  have questions := t.questions_ask
  have read {line : String} {t₁ t₂ : Transcribed σ} {d₁ : Debugger}
      {result : Except OperatorError Verdict} (asked : Console.ask t = (some line, t₁))
      (handled : d.handle line t₁ = (result, d₁, t₂)) :
      t.lines < t₂.lines ∧ t₂.questions + 2 * t.lines ≤ t.questions + 2 * t₂.lines := by
    rw [asked] at lines questions
    simp only [Option.isSome_some, if_true] at lines questions
    have counts := handle_counts handled
    omega
  cases exchange_exchanges done with
  | closed asked =>
    rw [asked] at lines questions
    simp only [Option.isSome_none, Bool.false_eq_true, if_false] at lines questions
    refine ⟨?_, fun other => absurd rfl other, ?_⟩
    · omega
    · rw [if_pos rfl]
      omega
  | resumed asked handled | left asked handled | stayed asked handled =>
    obtain ⟨more, balance⟩ := read asked handled
    exact ⟨Nat.le_of_lt more, fun _ => more, Nat.le_add_right_of_le balance⟩
  | @refused _ e _ _ t₂ asked handled =>
    obtain ⟨-, shownLines, shownQuestions⟩ :=
      (Transcribed.mirrors_counts t₂.lines t₂.questions).display ⟨rfl, rfl, rfl⟩
        ("error: " ++ e.message)
    rw [refuse, shownLines, shownQuestions]
    obtain ⟨more, balance⟩ := read asked handled
    exact ⟨Nat.le_of_lt more, fun _ => more, Nat.le_add_right_of_le balance⟩

/-- A conversation that resumes has read a line, and asked at most twice for each. -/
theorem converse_counts {resumes : Bool} (done : d.converse t = (resumes, d', t')) :
    t.lines ≤ t'.lines ∧ (resumes = true → t.lines < t'.lines) ∧
      t'.questions + 2 * t.lines ≤ t.questions + 2 * t'.lines + if resumes then 0 else 1 := by
  fun_induction converse d t with
  | case1 d t resumes d₁ t₁ exchanged =>
    cases done
    obtain ⟨le, more, balance⟩ := exchange_counts exchanged
    cases resumes with
    | true => exact ⟨le, fun _ => more (by simp), balance⟩
    | false => exact ⟨le, fun yes => absurd yes Bool.false_ne_true, balance⟩
  | case2 d t d₁ t₁ exchanged _ ih =>
    obtain ⟨le, more, balance⟩ := exchange_counts exchanged
    obtain ⟨le', more', balance'⟩ := ih done
    rw [if_neg (by simp)] at balance
    refine ⟨Nat.le_trans le le', fun yes => Nat.lt_of_le_of_lt le (more' yes), ?_⟩
    omega

/-- A step that gets to its command has asked at most twice for each line it read. -/
theorem Arrives.counts (arrived : Arrives d t d' t') :
    t.lines ≤ t'.lines ∧ t'.questions + 2 * t.lines ≤ t.questions + 2 * t'.lines := by
  have entry := enter_counts d t
  cases arrived with
  | ready entered =>
    rw [entered] at entry
    simp only at entry
    omega
  | asked entered resumed =>
    rw [entered] at entry
    simp only at entry
    obtain ⟨le, -, balance⟩ := converse_counts resumed
    rw [if_pos rfl] at balance
    omega

/-- A step that the operator leaves may ask once more than that. -/
theorem step_counts {result : Except Fault StepResult} (done : d.step t = (result, d', t')) :
    t.lines ≤ t'.lines ∧ t'.questions + 2 * t.lines ≤ t.questions + 2 * t'.lines + 1 := by
  have entry := enter_counts d t
  rcases step_parts done with ⟨d₁, t₁, arrived, executed⟩ | ⟨-, ended | left⟩ | ⟨f, -, failed⟩
  · have counts := arrived.counts
    have performed := execute_counts d₁ t₁
    rw [executed] at performed
    simp only at performed
    omega
  · rw [ended] at entry
    simp only at entry
    omega
  · obtain ⟨d₁, t₁, entered, conversed⟩ := left
    rw [entered] at entry
    simp only at entry
    obtain ⟨le, -, balance⟩ := converse_counts conversed
    simp only [Bool.false_eq_true, if_false] at balance
    omega
  · rw [failed] at entry
    simp only at entry
    omega

end Counts

/-! ## The tally -/

/-- The limit once for each line that was read, and the snapshots in the history. -/
def tally (d : Debugger) (t : Transcribed σ) : Nat :=
  t.lines * d.settings.instructionLimit + d.history.size

/-- In a run under the limit, the history is within it, and between two steps the present
state is not recorded yet. -/
structure Underway (limit : Nat) (d : Debugger) : Prop where
  limit_eq : d.settings.instructionLimit = limit
  fresh : d.resuming = false
  within : d.history.size ≤ limit

section Tally

variable {limit : Nat} {d d' : Debugger} {t t' : Transcribed σ}

theorem Underway.opens {d₁ : Debugger} (underway : Underway limit d) (opened : Opens d d₁) :
    Underway limit d₁ ∧ d₁.history.size = d.history.size + 1 := by
  cases opened with
  | again resuming =>
    rw [underway.fresh] at resuming
    cases resuming
  | @anew h fresh _ room =>
    rw [underway.limit_eq] at room
    have size : (d.history.push h).size = d.history.size + 1 := Array.size_push ..
    exact ⟨⟨underway.limit_eq, fresh, size ▸ room⟩, size⟩

/-- A step that gets to its command has raised the tally. -/
theorem Arrives.tally (arrived : Arrives d t d' t') (underway : Underway limit d) :
    Underway limit d' ∧ d.tally t + 1 ≤ d'.tally t' := by
  have entry := enter_counts d t
  cases arrived with
  | ready entered =>
    rw [entered] at entry
    obtain ⟨d₁, phase, opened, rfl⟩ := enter_opens entered (.inl rfl)
    obtain ⟨⟨limit_eq, fresh, within⟩, size⟩ := underway.opens opened
    refine ⟨⟨limit_eq, fresh, within⟩, ?_⟩
    simp only [Debugger.tally, entry.1, limit_eq, underway.limit_eq, size]
    omega
  | @asked _ _ t₁ _ entered resumed =>
    rw [entered] at entry
    obtain ⟨d₁, phase, opened, rfl⟩ := enter_opens entered (.inr rfl)
    obtain ⟨⟨limit_eq, -, within⟩, size⟩ := underway.opens opened
    have conversed := converse_cases resumed
    obtain ⟨shorter, nonempty⟩ := conversed.size
    obtain ⟨settings, -⟩ := conversed.keeps
    have limit_eq' : d'.settings.instructionLimit = limit := settings ▸ limit_eq
    have fresh : d'.resuming = false := by
      cases conversed with
      | resume => rfl
    refine ⟨⟨limit_eq', fresh, Nat.le_trans shorter within⟩, ?_⟩
    -- A line has been read, which outweighs all that going back has dropped.
    have more : t₁.lines < t'.lines := (converse_counts resumed).2.1 rfl
    have whole := Nat.mul_le_mul_right limit (Nat.succ_le_of_lt more)
    rw [Nat.succ_mul] at whole
    simp only [Debugger.tally, ← entry.1, limit_eq', underway.limit_eq]
    simp only at shorter nonempty within
    omega

/-- Performing a command leaves the tally as it is. -/
theorem execute_tally (underway : Underway limit d) {result : Except Fault StepResult}
    (done : d.execute t = (result, d', t')) :
    Underway limit d' ∧ d'.tally t' = d.tally t ∧ t'.lines = t.lines ∧
      t'.questions = t.questions := by
  obtain ⟨machine, same⟩ := execute_machine d t
  obtain ⟨lines, questions⟩ := execute_counts d t
  rw [done] at same lines questions
  simp only at same lines questions
  subst same
  refine ⟨⟨underway.limit_eq, underway.fresh, underway.within⟩, ?_, lines, questions⟩
  simp only [tally, lines]

/-- Steps that all perform their commands raise the tally by their number. -/
theorem steps_tally (underway : Underway limit d) {outcomes : List Outcome}
    (performed : (d.steps outcomes.length t).1 = performances outcomes)
    (done : (d.steps outcomes.length t).2 = (d', t')) :
    Underway limit d' ∧ d.tally t + outcomes.length ≤ d'.tally t' ∧
      t'.questions + 2 * t.lines ≤ t.questions + 2 * t'.lines := by
  induction outcomes generalizing d t with
  | nil =>
    cases done
    exact ⟨underway, Nat.le_refl _, Nat.le_refl _⟩
  | cons o outcomes ih =>
    rcases first : d.step t with ⟨result, d₁, t₁⟩
    simp only [List.length_cons, steps, first, performances, List.map_cons,
      List.cons.injEq] at performed done
    obtain ⟨rfl, rest⟩ := performed
    rcases step_parts first with ⟨d₂, t₂, arrived, executed⟩ | ⟨other, -⟩ | ⟨f, other, -⟩
    · obtain ⟨underway₂, raised⟩ := arrived.tally underway
      obtain ⟨-, balance⟩ := arrived.counts
      obtain ⟨underway₁, same, lines, questions⟩ := execute_tally underway₂ executed
      obtain ⟨underway', later, balance'⟩ := ih underway₁ rest done
      refine ⟨underway', ?_, ?_⟩
      · rw [List.length_cons]
        omega
      · omega
    · cases other
    · cases other

omit [Console σ] in
theorem Underway.tally_le (underway : Underway limit d) (t : Transcribed σ) :
    d.tally t ≤ (t.lines + 1) * limit := by
  have within := underway.within
  rw [tally, underway.limit_eq, Nat.succ_mul]
  omega

/-- The last step of a run reads and asks as any other, and raises the tally if it fails at
its command. -/
theorem Stops.tally {result : Except Fault SessionEnd} (stops : Stops d t (result, d', t'))
    (underway : Underway limit d) :
    t.lines ≤ t'.lines ∧ t'.questions + 2 * t.lines ≤ t.questions + 2 * t'.lines + 1 ∧
      ∀ f, result = .error f → f = .limitExceeded limit ∨ (∃ line, f = .lineNotFound line) ∨
        d.tally t < (t'.lines + 1) * limit := by
  cases stops with
  | halted => exact ⟨Nat.le_refl _, Nat.le_succ _, nofun⟩
  | exited _ left =>
    obtain ⟨le, balance⟩ := step_counts left
    exact ⟨le, balance, nofun⟩
  | @faulted f _ _ _ failed =>
    obtain ⟨le, balance⟩ := step_counts failed
    refine ⟨le, balance, ?_⟩
    intro _ same
    cases same
    rcases step_parts failed with ⟨d₁, t₁, arrived, executed⟩ | ⟨other, -⟩ | ⟨_, same, entered⟩
    · obtain ⟨underway₁, raised⟩ := arrived.tally underway
      obtain ⟨underway', same, -, -⟩ := execute_tally underway₁ executed
      have bound := underway'.tally_le t'
      exact .inr (.inr (by omega))
    · cases other
    · cases same
      cases enter_begins entered with
      | missing _ _ absent => exact .inr (.inl ⟨_, (Machine.snapshot_eq_error_iff.mp absent).2⟩)
      | outgrown => exact .inl (by rw [underway.limit_eq])
      | @opened d₁ _ _ _ _ _ presented =>
        rcases present_cases presented with ⟨other, -⟩ | ⟨other, -⟩ <;> cases other

end Tally

/-- A run ends, whatever the program and the operator do.  It performs the commands of a
number of steps and then stops, and with the lines that were read on the way that number
is at most the limit times one more than these; a command that fails counts as one of
them.  The operator is asked at most twice for each line, and once more at the end. -/
theorem run_ends {m₀ : Machine} {settings : Settings} {d : Debugger}
    (created : create m₀ settings = .ok d) (s : σ) :
    let limit := settings.instructionLimit
    let (result, last, t) := d.run (Transcribed.start s)
    d.run s = (result, last, t.console) ∧ t.questions ≤ 2 * t.lines + 1 ∧
      ∃ outcomes : List Outcome,
        (d.steps outcomes.length s).1 = performances outcomes ∧
        Stops (d.steps outcomes.length s).2.1 (d.steps outcomes.length s).2.2 (d.run s) ∧
        outcomes.length ≤ (t.lines + 1) * limit ∧
        ∀ f, result = .error f → f = .limitExceeded limit ∨ (∃ line, f = .lineNotFound line) ∨
          outcomes.length < (t.lines + 1) * limit := by
  intro limit
  have start := Transcribed.console_start s
  obtain ⟨outcomes, performed, stops⟩ := run_unrolls d (Transcribed.start s)
  have ran := Transcribed.eq_of_agree (run_agree Transcribed.simulates start d)
  have stepped :=
    Transcribed.eq_of_agree (steps_agree Transcribed.simulates start d outcomes.length)
  rcases ended : d.run (Transcribed.start s) with ⟨result, last, t⟩
  rw [ended] at ran stops
  rcases reached : (d.steps outcomes.length (Transcribed.start s)).2 with ⟨dₙ, tₙ⟩
  rw [reached] at stepped stops
  simp only at stepped stops
  have underway : Underway limit d ∧ d.tally (Transcribed.start s) = 0 := by
    obtain ⟨delay, rfl⟩ := create_eq_ok created
    exact ⟨⟨rfl, rfl, Nat.zero_le _⟩, Nat.zero_mul _⟩
  obtain ⟨underwayₙ, tally, balance⟩ := steps_tally underway.1 performed reached
  obtain ⟨le, balance', failed⟩ := stops.tally underwayₙ
  have unread : (Transcribed.start s).lines = 0 ∧ (Transcribed.start s).questions = 0 := ⟨rfl, rfl⟩
  have bound := underwayₙ.tally_le tₙ
  have more : (tₙ.lines + 1) * limit ≤ (t.lines + 1) * limit :=
    Nat.mul_le_mul_right limit (Nat.succ_le_succ le)
  simp only
  refine ⟨ran, by omega, outcomes, ?_, ?_, ?_, ?_⟩
  · rw [stepped]
    exact performed
  · rw [stepped, ran]
    exact stops.plain
  · omega
  · intro f fault
    rcases failed f fault with limit | line | less
    · exact .inl limit
    · exact .inr (.inl line)
    · exact .inr (.inr (by omega))

/-- A program that never halts, and an operator who goes back before letting it go on. -/
theorem run_ends_endless :
    let m₀ := Machine.start ⟨[⟨.goto, .immediate 1, 1⟩]⟩ []
    let settings : Settings := { instructionLimit := 2, interactive := true }
    let operator : Script := { answers := ["", "rollback 0", "", "continue"].map some }
    let d : Debugger := ⟨m₀, settings, ⟨1, 0⟩, #[], .running, false⟩
    create m₀ settings = .ok d ∧ (d.run operator).1 = .error (.limitExceeded 2) ∧
      (d.run (Transcribed.start operator)).2.2.lines = 4 ∧
      ∃ outcomes : List Outcome,
        (d.steps outcomes.length operator).1 = performances outcomes ∧
        outcomes.length ≤ (4 + 1) * 2 := by
  intro m₀ settings operator d
  have created : create m₀ settings = .ok d := rfl
  have lines : (d.run (Transcribed.start operator)).2.2.lines = 4 := by decide +kernel
  obtain ⟨-, -, outcomes, performed, -, bound, -⟩ := run_ends created operator
  rw [lines] at bound
  exact ⟨created, by decide +kernel, lines, outcomes, performed, bound⟩

end Debugger

end RegisterMachine
