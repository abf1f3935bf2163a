import RegisterMachine.Proofs.Debug.Transparency
import RegisterMachine.Shell.Simulator

/-!
# Runs without frames

A run that shows no frames and asks nobody is a plain run of the machine with loaders in front
of it.

* `Debugger.run_silent`: all that such a session does to its console is to note records.
* `SettingsFailure`: why there are no settings in force, with the words of the JSON reader where
  it refuses a text.
* `RunRequest.Loads`, `RunRequest.Succeeds` and `RunRequest.FirstFailure`: what a run starts
  from, when it succeeds, and otherwise the error of the first stage that fails.  The stages
  are the program, the tape, the settings and the run.
* `simulate_silent`: exit code, standard output and error message are settled by these.

The last stage has the fault of `Machine.run` but for a machine that strays from the program
with the last command allowed: there a session misses the line and a run has reached its limit
(`silent_message_of_missing_line`).
-/

namespace RegisterMachine

open Text (Bytes)

namespace Debugger

/-! ## Sessions that show nothing -/

variable {σ β : Type} [Console σ] {view : σ → β}

theorem present_silent {d : Debugger} (silent : d.settings.renders = false) (s : σ) :
    d.present s = (.ready, d, s) :=
  if_neg (by simp [silent])

variable (noted : ∀ (s : σ) (r : Record), view (Console.note s r) = view s)
include noted

theorem record_silent {d d' : Debugger} {s s' : σ} {result : Except Fault Unit}
    (recorded : d.record s = (result, d', s')) :
    d'.settings = d.settings ∧ view s' = view s := by
  unfold record at recorded
  split at recorded
  · cases recorded
    exact ⟨rfl, rfl⟩
  · simp only at recorded
    split at recorded <;> cases recorded
    · exact ⟨rfl, noted s _⟩
    · exact ⟨rfl, rfl⟩

/-- Nobody is asked. -/
theorem enter_silent {d d' : Debugger} {s s' : σ} {opening : Opening}
    (silent : d.settings.renders = false) (entered : d.enter s = (opening, d', s')) :
    opening ≠ .prompting ∧ view s' = view s := by
  unfold enter at entered
  split at entered
  · cases entered
    exact ⟨by simp, rfl⟩
  · split at entered
    · have opened := present_silent (d := { d with resuming := false }) silent s
      rw [opened] at entered
      cases entered
      exact ⟨by simp, rfl⟩
    · split at entered <;> rename_i recorded
      · cases entered
        exact ⟨by simp, (record_silent noted recorded).2⟩
      · obtain ⟨settings, kept⟩ := record_silent noted recorded
        rw [present_silent (settings ▸ silent)] at entered
        cases entered
        exact ⟨by simp, kept⟩

theorem step_silent {d d' : Debugger} {s s' : σ} {result : Except Fault StepResult}
    (silent : d.settings.renders = false) (stepped : d.step s = (result, d', s')) :
    view s' = view s := by
  unfold step at stepped
  split at stepped <;> rename_i entered
  · cases stepped
    exact (enter_silent noted silent entered).2
  · cases stepped
    exact (enter_silent noted silent entered).2
  · have kept := (enter_silent noted silent entered).2
    rw [execute_eq] at stepped
    split at stepped <;> cases stepped
    · exact kept
    · exact (noted _ _).trans kept
  · exact absurd rfl (enter_silent noted silent entered).1

/-- What notes do not change, a session without frames does not change. -/
theorem run_silent {d d' : Debugger} {s s' : σ} {result : Except Fault SessionEnd}
    (silent : d.settings.renders = false) (done : d.run s = (result, d', s')) :
    view s' = view s := by
  fun_induction run d s with
  | case1 d s halted =>
    cases done
    rfl
  | case2 d s running f d₁ s₁ stepped =>
    cases done
    exact step_silent noted silent stepped
  | case3 d s running d₁ s₁ stepped =>
    cases done
    exact step_silent noted silent stepped
  | case4 d s running d₁ s₁ o stepped _ ih =>
    have settings := (step_follows stepped).1.settings
    exact (ih (settings ▸ silent) done).trans (step_silent noted silent stepped)

end Debugger

/-- The fault of a session on `m₀` that nobody ends: that of a plain run, but for a machine that
strays with the last command allowed. -/
inductive Machine.SessionFault (m₀ : Machine) (limit : Nat) : Fault → Prop
  | strays {m : Machine} (strays : m₀.StraysAfter limit m) :
    SessionFault m₀ limit (.lineNotFound m.instructionPointer)
  | run {f : Fault} (settled : ¬ ∃ m, m₀.StraysAfter limit m)
    (failed : (m₀.run limit).2 = .error f) : SessionFault m₀ limit f

theorem Machine.StraysAfter.run {m m' : Machine} {limit : Nat} (strays : m.StraysAfter limit m') :
    (m.run limit).2 = .error (.limitExceeded limit) := by
  obtain ⟨reached, running, -⟩ := strays
  rw [run_of_limit reached (by simpa [isHalted] using running)]

theorem Machine.SessionFault.unique {m : Machine} {limit : Nat} {f f' : Fault}
    (h : m.SessionFault limit f) (h' : m.SessionFault limit f') : f = f' := by
  cases h with
  | strays strays =>
    cases h' with
    | strays strays' => rw [Except.ok.inj (strays.1.symm.trans strays'.1)]
    | run settled => exact absurd ⟨_, strays⟩ settled
  | run settled failed =>
    cases h' with
    | strays strays => exact absurd ⟨_, strays⟩ settled
    | run _ failed' => exact Except.error.inj (failed.symm.trans failed')

theorem Machine.SessionFault.run_ne_ok {m : Machine} {limit : Nat} {f : Fault}
    (h : m.SessionFault limit f) (report : RunReport) : (m.run limit).2 ≠ .ok report := by
  cases h with
  | strays strays => simp [strays.run]
  | run _ failed => simp [failed]

/-- A machine comes to a report or to a fault. -/
theorem Machine.report_or_sessionFault (m : Machine) (limit : Nat) :
    (∃ report, (m.run limit).2 = .ok report) ∨ ∃ f, m.SessionFault limit f := by
  by_cases strays : ∃ m', m.StraysAfter limit m'
  · obtain ⟨m', strays⟩ := strays
    exact .inr ⟨_, .strays strays⟩
  · cases ended : (m.run limit).2 with
    | ok report => exact .inl ⟨report, rfl⟩
    | error f => exact .inr ⟨f, .run strays ended⟩

/-- A session without frames has the report of a plain run or a fault, and leaves the screen as
it is. -/
theorem runSession_silent {program : Program} {input : List Value} {settings : Settings}
    {d : Debugger} (accepted : Debugger.create (Machine.start program input) settings = .ok d)
    (silent : settings.renders = false) (t : Terminal) :
    let start := Machine.start program input
    let limit := settings.instructionLimit
    (runSession program input settings t).2.screen = t.screen ∧
      ((∃ report, (start.run limit).2 = .ok report ∧
        (runSession program input settings t).1 = .ok ⟨.halted, report.output, report.steps⟩) ∨
      ∃ f, start.SessionFault limit f ∧
        (runSession program input settings t).1 = .error (.fault f)) := by
  intro start limit
  have settings_eq : d.settings = settings := by
    obtain ⟨delay, rfl⟩ := Debugger.create_eq_ok accepted
    rfl
  have concluded {result : Except Fault SessionEnd} {d' : Debugger} {t' : Terminal}
      (ended : d.run t = (result, d', t')) : Debugger.Concludes start settings result d' := by
    obtain ⟨delay, rfl⟩ := Debugger.create_eq_ok accepted
    exact Debugger.run_concludes ⟨rfl, rfl, by simp⟩ rfl (by simp) (Nat.zero_le _) ended
  rcases ended : d.run t with ⟨f | ending, d', t'⟩ <;>
    have screen : t'.screen = t.screen :=
      Debugger.run_silent (fun _ _ => rfl) (settings_eq ▸ silent) ended
  · simp only [runSession, accepted, concludeSession, ended]
    refine ⟨screen, .inr ⟨f, ?_, rfl⟩⟩
    rcases (concluded ended).fault with ⟨m, strays, -, rfl⟩ | ⟨settled, failed⟩
    · exact .strays strays
    · exact .run settled failed
  · simp only [runSession, accepted, concludeSession, ended]
    cases concluded ended with
    | @halted n _ traced within halted =>
      refine ⟨screen, .inl ⟨⟨n, d'.machine.output⟩, ?_, by rw [traced.size_eq]⟩⟩
      exact congrArg Prod.snd (Machine.run_of_halted traced.reached within halted)
    | exited traced within interactive => simp [Settings.renders, interactive] at silent

/-! ## The stages of a run -/

/-- The machine that a run starts. -/
def Prepared.machine (p : Prepared) : Machine := Machine.start p.program p.input

/-- The settings before the overrides: the defaults, or what the file says. -/
inductive BaseSettings (host : Host) : Option Bytes → Settings → Prop
  | default : BaseSettings host none {}
  | file {path : Bytes} {text : String} {base : Settings}
    (read : host.files.text path = .ok text) (parsed : Settings.ofText? text = some base) :
    BaseSettings host (some path) base

/-- Why no settings are in force: the file cannot be read, the JSON reader refuses its text, or
the overrides leave settings that are not valid.  The words of a refusal are the reader's. -/
inductive SettingsFailure (host : Host) (overrides : Overrides) :
    Option Bytes → SimulatorError → Prop
  | unreadable {path : Bytes} {why : ReadFailure} (failed : host.files.text path = .error why) :
    SettingsFailure host overrides (some path) (.unreadable path why)
  | refused {path : Bytes} {text : String} (read : host.files.text path = .ok text)
    (refused : Settings.ofText? text = none) :
    SettingsFailure host overrides (some path) (.settingsSyntax path (host.complaint text))
  | invalid {path : Option Bytes} {base : Settings} {e : SettingsError}
    (based : BaseSettings host path base) (failed : (overrides.apply base).validate = .error e) :
    SettingsFailure host overrides path (.settings e)

theorem BaseSettings.resolve {host : Host} {path : Option Bytes} {base : Settings}
    (based : BaseSettings host path base) (overrides : Overrides) :
    (resolveSettings host path overrides).1 =
      ((overrides.apply base).validate.mapError .settings).map fun _ => overrides.apply base := by
  cases based with
  | default =>
    simp only [resolveSettings]
    cases (overrides.apply {}).validate <;> rfl
  | @file path text base read parsed =>
    simp only [resolveSettings, loadSettings, loadText, read, Except.mapError, parsed]
    cases (overrides.apply base).validate <;> rfl

theorem SettingsFailure.resolve {host : Host} {overrides : Overrides} {path : Option Bytes}
    {e : SimulatorError} (failed : SettingsFailure host overrides path e) :
    (resolveSettings host path overrides).1 = .error e := by
  cases failed with
  | unreadable failed => simp only [resolveSettings, loadSettings, loadText, failed, Except.mapError]
  | refused read refused =>
    simp only [resolveSettings, loadSettings, loadText, read, Except.mapError, refused]
  | invalid based failed =>
    rw [based.resolve, failed]
    rfl

/-- Settings are in force, or there is a reason why not. -/
theorem resolveSettings_cases (host : Host) (path : Option Bytes) (overrides : Overrides) :
    (∃ s, (resolveSettings host path overrides).1 = .ok s) ∨
      ∃ e, SettingsFailure host overrides path e := by
  have validated {base : Settings} (based : BaseSettings host path base) :
      (∃ s, (resolveSettings host path overrides).1 = .ok s) ∨
        ∃ e, SettingsFailure host overrides path e := by
    cases valid : (overrides.apply base).validate with
    | error e => exact .inr ⟨_, .invalid based valid⟩
    | ok =>
      rw [based.resolve, valid]
      exact .inl ⟨_, rfl⟩
  cases path with
  | none => exact validated .default
  | some path =>
    cases read : host.files.text path with
    | error why => exact .inr ⟨_, .unreadable read⟩
    | ok text =>
      cases parsed : Settings.ofText? text with
      | none => exact .inr ⟨_, .refused read parsed⟩
      | some base => exact validated (.file read parsed)

namespace RunRequest

variable {r : RunRequest} {host : Host}

/-- The program file is text that compiles, the tape can be read, and the settings can be
resolved. -/
structure Loads (r : RunRequest) (host : Host) (p : Prepared) : Prop where
  program : ∃ source, host.files.text r.program = .ok source ∧ Program.ofText source = .ok p.program
  tape : loadInput host.files r.tape = .ok p.input
  settings : (resolveSettings host r.settings r.overrides).1 = .ok p.settings

/-- All is loaded, a debugger accepts the settings, and the machine halts within the limit. -/
def Succeeds (r : RunRequest) (host : Host) (report : RunReport) : Prop :=
  ∃ p d, r.Loads host p ∧ Debugger.create p.machine p.settings = .ok d ∧
    (p.machine.run p.settings.instructionLimit).2 = .ok report

/-- The error of the first stage that fails. -/
inductive FirstFailure (r : RunRequest) (host : Host) : SimulatorError → Prop
  | unreadable {why : ReadFailure} (failed : host.files.text r.program = .error why) :
    FirstFailure r host (.unreadable r.program why)
  | program {source : String} {e : CompileError} (read : host.files.text r.program = .ok source)
    (failed : Program.ofText source = .error e) : FirstFailure r host (.program r.program e)
  | tape {source : String} {program : Program} {e : SimulatorError}
    (read : host.files.text r.program = .ok source) (compiled : Program.ofText source = .ok program)
    (failed : loadInput host.files r.tape = .error e) : FirstFailure r host e
  | settings {source : String} {program : Program} {input : List Value} {e : SimulatorError}
    (read : host.files.text r.program = .ok source) (compiled : Program.ofText source = .ok program)
    (tape : loadInput host.files r.tape = .ok input)
    (failed : SettingsFailure host r.overrides r.settings e) : FirstFailure r host e
  | debugger {p : Prepared} {e : SettingsError} (loads : r.Loads host p)
    (failed : Debugger.create p.machine p.settings = .error e) :
    FirstFailure r host (.settings e)
  | run {p : Prepared} {d : Debugger} {f : Fault} (loads : r.Loads host p)
    (accepted : Debugger.create p.machine p.settings = .ok d)
    (failed : p.machine.SessionFault p.settings.instructionLimit f) :
    FirstFailure r host (.fault f)

theorem loadProgram_eq (files : Files) (path : Bytes) :
    (loadProgram files path).1 =
      ((files.text path).mapError (.unreadable path)).bind fun source =>
        (Program.ofText source).mapError (.program path) := by
  rw [loadProgram, loadText]
  cases files.text path with
  | error why => rfl
  | ok source =>
    simp only [Except.mapError, Except.bind]
    cases Program.ofText source <;> rfl

/-- The program is loaded first, then the tape, then the settings. -/
theorem prepare_eq (r : RunRequest) (host : Host) :
    (r.prepare host).1 = (loadProgram host.files r.program).1.bind fun program =>
      (loadInput host.files r.tape).bind fun input =>
        (resolveSettings host r.settings r.overrides).1.map fun settings =>
          ⟨program, input, settings⟩ := by
  rw [prepare]
  rcases loadProgram host.files r.program with ⟨e | program, log⟩
  · rfl
  · simp only [Except.bind]
    cases loadInput host.files r.tape with
    | error e => rfl
    | ok input =>
      rcases resolveSettings host r.settings r.overrides with ⟨e | settings, more⟩ <;> rfl

theorem Loads.prepare {p : Prepared} (loads : r.Loads host p) : (r.prepare host).1 = .ok p := by
  obtain ⟨source, read, compiled⟩ := loads.program
  simp [prepare_eq, loadProgram_eq, read, compiled, loads.tape, loads.settings, Except.mapError,
    Except.bind, Except.map]

theorem execute_of_prepare_error {e : SimulatorError} (failed : (r.prepare host).1 = .error e)
    (stdin : Bytes) : ∃ log, r.execute host stdin = .failed e "" log := by
  rcases prepared : r.prepare host with ⟨result, log⟩
  rw [prepared] at failed
  cases failed
  simp only [execute, prepared]
  exact ⟨_, rfl⟩

theorem execute_of_prepare {p : Prepared} (loaded : (r.prepare host).1 = .ok p)
    (stdin : Bytes) :
    let session := runSession p.program p.input p.settings ({ unread := stdin } : Terminal)
    ∃ log, r.execute host stdin = .ofSession session.1 session.2.screen log := by
  rcases prepared : r.prepare host with ⟨result, log⟩
  rw [prepared] at loaded
  cases loaded
  simp only [execute, prepared]
  exact ⟨_, rfl⟩

/-- Neither frames nor prompts are asked for by the settings in force. -/
def Silent (r : RunRequest) (host : Host) : Prop :=
  ∀ s, (resolveSettings host r.settings r.overrides).1 = .ok s →
    s.interactive = false ∧ s.logging = false

theorem silent_of_resolved {s : Settings}
    (resolved : (resolveSettings host r.settings r.overrides).1 = .ok s)
    (quiet : s.interactive = false ∧ s.logging = false) : r.Silent host := by
  intro s' resolved'
  obtain rfl := Except.ok.inj (resolved.symm.trans resolved')
  exact quiet

theorem Loads.silent {p : Prepared} (loads : r.Loads host p) (silent : r.Silent host) :
    p.settings.renders = false := by
  obtain ⟨interactive, logging⟩ := silent p.settings loads.settings
  simp [Settings.renders, interactive, logging]

theorem execute_of_succeeds {report : RunReport} (silent : r.Silent host)
    (succeeds : r.Succeeds host report) (stdin : Bytes) :
    ∃ log, r.execute host stdin = .done (Tape.rows report.output.toList) log := by
  obtain ⟨p, d, loads, accepted, finished⟩ := succeeds
  obtain ⟨log, exit⟩ := execute_of_prepare loads.prepare stdin
  refine ⟨log, exit.trans ?_⟩
  obtain ⟨screen, ⟨report', finished', session⟩ | ⟨f, failed, -⟩⟩ :=
    runSession_silent accepted (loads.silent silent) { unread := stdin }
  · obtain rfl := Except.ok.inj (finished.symm.trans finished')
    rw [session, screen]
    exact congrArg (Exit.done · log) String.empty_append
  · exact absurd finished (failed.run_ne_ok report)

theorem execute_of_fails {e : SimulatorError} (silent : r.Silent host)
    (fails : r.FirstFailure host e) (stdin : Bytes) :
    ∃ log, r.execute host stdin = .failed e "" log := by
  cases fails with
  | unreadable failed =>
    refine execute_of_prepare_error ?_ stdin
    simp [prepare_eq, loadProgram_eq, failed, Except.mapError, Except.bind]
  | program read failed =>
    refine execute_of_prepare_error ?_ stdin
    simp [prepare_eq, loadProgram_eq, read, failed, Except.mapError, Except.bind]
  | tape read compiled failed =>
    refine execute_of_prepare_error ?_ stdin
    simp [prepare_eq, loadProgram_eq, read, compiled, failed, Except.mapError, Except.bind]
  | settings read compiled tape failed =>
    refine execute_of_prepare_error ?_ stdin
    simp [prepare_eq, loadProgram_eq, read, compiled, tape, failed.resolve, Except.mapError,
      Except.bind, Except.map]
  | @debugger p e loads failed =>
    obtain ⟨log, exit⟩ := execute_of_prepare loads.prepare stdin
    refine ⟨log, exit.trans ?_⟩
    have refused : Debugger.create (Machine.start p.program p.input) p.settings = .error e := failed
    simp only [runSession, refused]
    rfl
  | run loads accepted failed =>
    obtain ⟨log, exit⟩ := execute_of_prepare loads.prepare stdin
    refine ⟨log, exit.trans ?_⟩
    obtain ⟨screen, ⟨report, finished, -⟩ | ⟨f', failed', session⟩⟩ :=
      runSession_silent accepted (loads.silent silent) { unread := stdin }
    · exact absurd finished (failed.run_ne_ok report)
    · rw [session, screen, failed'.unique failed]
      rfl

theorem succeeds_or_fails (r : RunRequest) (host : Host) :
    (∃ report, r.Succeeds host report) ∨ ∃ e, r.FirstFailure host e := by
  cases read : host.files.text r.program with
  | error why => exact .inr ⟨_, .unreadable read⟩
  | ok source =>
  cases compiled : Program.ofText source with
  | error e => exact .inr ⟨_, .program read compiled⟩
  | ok program =>
  cases tape : loadInput host.files r.tape with
  | error e => exact .inr ⟨_, .tape read compiled tape⟩
  | ok input =>
  rcases resolveSettings_cases host r.settings r.overrides with ⟨settings, resolved⟩ | ⟨e, failed⟩
  swap
  · exact .inr ⟨_, .settings read compiled tape failed⟩
  have loads : r.Loads host ⟨program, input, settings⟩ :=
    ⟨⟨source, read, compiled⟩, tape, resolved⟩
  cases accepted : Debugger.create (Machine.start program input) settings with
  | error e => exact .inr ⟨_, .debugger loads accepted⟩
  | ok d =>
    rcases Machine.report_or_sessionFault (Machine.start program input) settings.instructionLimit
      with ⟨report, finished⟩ | ⟨f, failed⟩
    · exact .inl ⟨report, _, d, loads, accepted, finished⟩
    · exact .inr ⟨_, .run loads accepted failed⟩

end RunRequest

/-- A run without frames and prompts exits with zero exactly if all stages succeed, and then
prints the output tape, a value on a line.  Otherwise it exits with one and prints nothing, and
its error is that of the first stage that fails. -/
theorem simulate_silent {host : Host} {args : List Bytes} {r : RunRequest}
    (asked : Request.ofArguments args = .ok (.run r)) (silent : r.Silent host) (stdin : Bytes) :
    let exit := simulate host stdin args
    (exit.code = 0 ↔ ∃ report, r.Succeeds host report) ∧
    (∀ report, r.Succeeds host report →
      exit.stdout = String.join (report.output.toList.map fun v => toString v.toInt ++ "\n") ∧
        exit.stderr = "") ∧
    (exit.code ≠ 0 → exit.code = 1 ∧ exit.stdout = "" ∧
      (∃ e, r.FirstFailure host e) ∧
        ∀ e, r.FirstFailure host e → exit.stderr = "error: " ++ e.message ++ "\n") := by
  intro exit
  have carried : exit = r.execute host stdin := by
    simp only [exit, simulate, asked]
  have done {report : RunReport} (succeeds : r.Succeeds host report) :=
    RunRequest.execute_of_succeeds silent succeeds stdin
  have failed {e : SimulatorError} (fails : r.FirstFailure host e) :=
    RunRequest.execute_of_fails silent fails stdin
  rw [carried]
  -- Each verdict settles the exit, and one of the two holds; a code tells which.
  refine ⟨⟨fun zero => ?_, ?_⟩, ?_, fun nonzero => ?_⟩
  · rcases r.succeeds_or_fails host with success | ⟨e, fails⟩
    · exact success
    · obtain ⟨log, exit_eq⟩ := failed fails
      rw [exit_eq] at zero
      cases zero
  · rintro ⟨report, succeeds⟩
    obtain ⟨log, exit_eq⟩ := done succeeds
    rw [exit_eq]
    rfl
  · intro report succeeds
    obtain ⟨log, exit_eq⟩ := done succeeds
    rw [exit_eq]
    exact ⟨rfl, rfl⟩
  · rcases r.succeeds_or_fails host with ⟨report, succeeds⟩ | ⟨e, fails⟩
    · obtain ⟨log, exit_eq⟩ := done succeeds
      rw [exit_eq] at nonzero
      exact absurd rfl nonzero
    · obtain ⟨log, exit_eq⟩ := failed fails
      refine ⟨by rw [exit_eq]; rfl, by rw [exit_eq]; rfl, ⟨e, fails⟩, fun e' fails' => ?_⟩
      obtain ⟨log', exit_eq'⟩ := failed fails'
      rw [exit_eq']
      rfl

/-- A value has been written when the tape runs out, and it is not printed. -/
theorem simulate_silent_unprinted :
    let source := "READ 1\r\nWRITE 1\r\nREAD 1\nHALT"
    let tree := FileTree.ofPaths [(Text.encode "p.ram", Text.encode source)] []
    let host : Host := ⟨tree.read, fun _ => ""⟩
    let args := ["run", "--tape", "7", "p.ram", "--max-instructions", "9"].map Text.encode
    let r : RunRequest :=
      { program := Text.encode "p.ram", tape := some (.inline "7")
        overrides := { instructionLimit := some 9 } }
    Request.ofArguments args = .ok (.run r) ∧ r.Silent host ∧
      r.FirstFailure host (.fault (.inputExhausted 3 1)) ∧
      (simulate host [] args).code = 1 ∧ (simulate host [] args).stdout = "" ∧
      (simulate host [] args).stderr =
        "error: line 3: input tape exhausted after 1 value(s)\n" := by
  intro source tree host args r
  let program : Program := ⟨[⟨.read, .immediate 1, 1⟩, ⟨.write, .immediate 1, 2⟩,
    ⟨.read, .immediate 1, 3⟩, ⟨.halt, .absent, 4⟩]⟩
  let settings : Settings := { instructionLimit := 9 }
  have asked : Request.ofArguments args = .ok (.run r) := by decide +kernel
  have resolved : (resolveSettings host r.settings r.overrides).1 = .ok settings := by
    decide +kernel
  have silent : r.Silent host := RunRequest.silent_of_resolved resolved ⟨rfl, rfl⟩
  have loads : r.Loads host ⟨program, [7], settings⟩ :=
    ⟨⟨source, by decide +kernel, by decide +kernel⟩, by decide +kernel, resolved⟩
  have stuck : (Machine.start program [7]).advance 9 = .error (.inputExhausted 3 1) := by
    decide +kernel
  have fails : r.FirstFailure host (.fault (.inputExhausted 3 1)) := by
    have accepted : Debugger.create (Machine.start program [7]) settings =
        .ok ⟨Machine.start program [7], settings, ⟨1, 0⟩, #[], .running, false⟩ := rfl
    refine .run loads accepted (.run ?_ (by decide +kernel))
    rintro ⟨m, reached, -⟩
    cases stuck.symm.trans reached
  obtain ⟨-, -, failure⟩ := simulate_silent asked silent []
  have code : (simulate host [] args).code ≠ 0 := by decide +kernel
  obtain ⟨one, stdout, -, stderr⟩ := failure code
  exact ⟨asked, silent, fails, one, stdout, stderr _ fails⟩

/-- The message of a silent run need not be that of the plain run: with the limit at the one
command of a program that does not halt, the run is over its limit and the message is about the
line behind the program. -/
theorem silent_message_of_missing_line :
    let tree := FileTree.ofPaths [(Text.encode "p.ram", Text.encode "LOAD 1")] []
    let host : Host := ⟨tree.read, fun _ => ""⟩
    let args := ["run", "p.ram", "--max-instructions", "1"].map Text.encode
    let r : RunRequest :=
      { program := Text.encode "p.ram", overrides := { instructionLimit := some 1 } }
    let p : Prepared := ⟨⟨[⟨.load, .immediate 1, 1⟩]⟩, [], { instructionLimit := 1 }⟩
    Request.ofArguments args = .ok (.run r) ∧ r.Silent host ∧ r.Loads host p ∧
      (p.machine.run 1).2 = .error (.limitExceeded 1) ∧
      (simulate host [] args).code = 1 ∧
      (simulate host [] args).stderr = "error: no instruction found at line 2\n" ∧
      (simulate host [] args).stderr ≠ "error: " ++ (Fault.limitExceeded 1).message ++ "\n" := by
  intro tree host args r p
  have resolved : (resolveSettings host r.settings r.overrides).1 = .ok p.settings := by
    decide +kernel
  have stderr : (simulate host [] args).stderr = "error: no instruction found at line 2\n" := by
    decide +kernel
  have loads : r.Loads host p :=
    ⟨⟨"LOAD 1", by decide +kernel, by decide +kernel⟩, rfl, resolved⟩
  refine ⟨by decide +kernel, RunRequest.silent_of_resolved resolved ⟨rfl, rfl⟩, loads,
    by decide +kernel, by decide +kernel, stderr, ?_⟩
  rw [stderr]
  decide +kernel

end RegisterMachine
