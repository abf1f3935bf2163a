import RegisterMachine.Debug.Debugger

/-!
# Sessions

A session runs a program on an input tape from start to end on a console.
-/

namespace RegisterMachine

/-- What a session comes to: how it ended, the output tape, and how many snapshots the
history holds. -/
structure SessionReport where
  ending : SessionEnd
  output : Array Value
  snapshots : Nat
  deriving DecidableEq, Repr

/-- Why a session fails: the settings are refused, or the machine faults. -/
inductive SessionError where
  | settings (e : SettingsError)
  | fault (f : Fault)
  deriving DecidableEq, Repr

/-- The wording of a failure is that of its cause. -/
def SessionError.message : SessionError → String
  | .settings e => e.message
  | .fault f => f.message

variable {σ : Type} [Console σ]

/-- What a session comes to when its run has. The end of a run that did not fail goes to
the journal. -/
def concludeSession : Except Fault SessionEnd × Debugger × σ →
    Except SessionError SessionReport × σ
  | (.error f, _, s) => (.error (.fault f), s)
  | (.ok ending, d, s) =>
    (.ok ⟨ending, d.machine.output, d.history.size⟩,
      Console.note s (.sessionEnded ending d.history.size))

/-- Runs a program on a console. -/
def runSession (program : Program) (input : List Value) (settings : Settings) (s : σ) :
    Except SessionError SessionReport × σ :=
  match Debugger.create (Machine.start program input) settings with
  | .error e => (.error (.settings e), s)
  | .ok d => concludeSession (d.run s)

end RegisterMachine
