import RegisterMachine.Debug.Session
import RegisterMachine.Json.Settings
import RegisterMachine.Language.Tape
import RegisterMachine.Shell.Files

/-!
# Loading programs, tapes and settings

Every loader reads one file and names it in its errors. What goes to the journal comes
with the result.
-/

namespace RegisterMachine

open Text (Bytes)

/-- Why the simulator gives up. -/
inductive SimulatorError where
  | unreadable (path : Bytes) (why : ReadFailure)
  | program (path : Bytes) (e : CompileError)
  | tape (e : TapeError)
  /-- The settings file is refused, for the reason that the JSON reader gives. -/
  | settingsSyntax (path : Bytes) (reason : String)
  | settings (e : SettingsError)
  | fault (f : Fault)
  deriving DecidableEq

namespace SimulatorError

/-- The wording of an error. -/
def message : SimulatorError → String
  | unreadable path why => "cannot read " ++ Text.decodeLossy path ++ ": " ++ why.message
  | program path e =>
    Text.decodeLossy path ++ ":" ++ toString e.line ++ ": " ++ e.cause.message
  | tape e => e.message
  | settingsSyntax path reason =>
    "invalid configuration in " ++ Text.decodeLossy path ++ ": " ++ reason
  | settings e => e.message
  | fault f => f.message

/-- A failed session as an error of the simulator. -/
def ofSession : SessionError → SimulatorError
  | .settings e => settings e
  | .fault f => fault f

end SimulatorError

/-- What a call finds outside: the files, and what the JSON reader says of a settings text
that it refuses. The words are the reader's own. -/
structure Host where
  files : Files
  complaint : String → String

/-- Reads a text file. -/
def loadText (files : Files) (path : Bytes) : Except SimulatorError String :=
  (files.text path).mapError (.unreadable path)

/-- Reads and compiles a program file. -/
def loadProgram (files : Files) (path : Bytes) : Except SimulatorError Program × List Record :=
  match loadText files path with
  | .error e => (.error e, [])
  | .ok source =>
    match Program.ofText source with
    | .error e => (.error (.program path e), [])
    | .ok p => (.ok p, [.compiled p.size, .loaded p.size (Text.decodeLossy path)])

/-- Reads a tape given as text. -/
def parseTape (s : String) : Except SimulatorError (List Value) :=
  (Tape.parse s).mapError .tape

/-- Reads a tape file. -/
def loadTape (files : Files) (path : Bytes) : Except SimulatorError (List Value) :=
  match loadText files path with
  | .error e => .error e
  | .ok s => parseTape s

/-- Reads a settings file. -/
def loadSettings (host : Host) (path : Bytes) : Except SimulatorError Settings :=
  match loadText host.files path with
  | .error e => .error e
  | .ok s =>
    match Settings.ofText? s with
    | some settings => .ok settings
    | none => .error (.settingsSyntax path (host.complaint s))

/-- The settings in force: those of the file, if one is named, with the overrides on top.
Settings that are not valid are refused. -/
def resolveSettings (host : Host) (path : Option Bytes) (overrides : Overrides) :
    Except SimulatorError Settings × List Record :=
  let base : Except SimulatorError Settings := match path with
    | none => .ok {}
    | some path => loadSettings host path
  match base with
  | .error e => (.error e, [])
  | .ok base =>
    let settings := overrides.apply base
    match settings.validate with
    | .error e => (.error (.settings e), [])
    | .ok () => (.ok settings, [.configured settings])

end RegisterMachine
