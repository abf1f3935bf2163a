import RegisterMachine.Debug.Settings
import RegisterMachine.Debug.State
import RegisterMachine.Engine.Run

/-!
# The journal

Everything worth a line in a log is a `Record`; its level and its wording are
functions of it.
-/

namespace RegisterMachine

/-- How much a record matters. -/
inductive Level where
  | trace | debug | warn
  deriving DecidableEq, Repr

/-- The name of a level. -/
def Level.text : Level → String
  | .trace => "TRACE"
  | .debug => "DEBUG"
  | .warn => "WARN"

/-- An event worth a line in a log. -/
inductive Record where
  | performed (command : Command)
  | limitReached (limit : Nat)
  | compiled (size : Nat)
  | loaded (size : Nat) (path : String)
  | configured (settings : Settings)
  | operatorCommand (name : String)
  | rolledBack (index : Nat) (command : Command)
  | breakpointArmed (line : Nat)
  | breakpointHit (line : Nat)
  | continuing
  | historyExceeded (limit : Nat)
  | sessionEnded (ending : SessionEnd) (snapshots : Nat)
  | writeFailed (reason : String)
  | readFailed (reason : String)
  deriving DecidableEq

namespace Record

/-- The level of a record. -/
def level : Record → Level
  | performed _ => .trace
  | limitReached _ | historyExceeded _ | writeFailed _ | readFailed _ => .warn
  | _ => .debug

/-- The wording of a record. -/
def message : Record → String
  | performed command => "execute " ++ command.text
  | limitReached limit => "instruction limit of " ++ toString limit ++ " reached"
  | compiled size => "compiled " ++ toString size ++ " command(s)"
  | loaded size path => "loaded " ++ toString size ++ " line(s) from " ++ path
  | configured settings => "effective configuration: " ++ settings.text
  | operatorCommand name => "operator command: " ++ name
  | rolledBack index command =>
    "rolled back to snapshot " ++ toString index ++ " (" ++ command.text ++ ")"
  | breakpointArmed line => "breakpoint armed at line " ++ toString line
  | breakpointHit line => "breakpoint hit at line " ++ toString line
  | continuing => "continuing without rendering"
  | historyExceeded limit =>
    "history exceeded " ++ toString limit ++ " snapshots; aborting run"
  | sessionEnded ending snapshots =>
    "session ended (" ++ ending.text ++ ") after " ++ toString snapshots ++ " snapshot(s)"
  | writeFailed reason => "console write failed: " ++ reason
  | readFailed reason => "console read failed: " ++ reason

/-- The level and the wording on one line. -/
def text (r : Record) : String := r.level.text ++ " " ++ r.message

end Record

/-- What a run of a machine writes to the journal: each command it performs, and
the limit when that is what stops it. -/
def Machine.runRecords (m : Machine) (limit : Nat) : List Record :=
  let records := (Machine.performed limit m).map Record.performed
  match (m.run limit).2 with
  | .error (.limitExceeded _) => records ++ [.limitReached limit]
  | _ => records

/-- What a step of a machine writes to the journal. -/
def Machine.stepRecords (m : Machine) : List Record :=
  match m.stepInPlace.1 with
  | .ok o => [.performed o.command]
  | .error _ => []

/-- What reading a program writes to the journal. -/
def Program.compileRecords : Except CompileError Program → List Record
  | .ok p => [.compiled p.size]
  | .error _ => []

end RegisterMachine
