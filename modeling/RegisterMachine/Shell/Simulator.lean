import RegisterMachine.Debug.Terminal
import RegisterMachine.Shell.Arguments
import RegisterMachine.Shell.Load

/-!
# The simulator

What the command line makes of its arguments, of what it finds outside and of the bytes on its
input: an exit code, what it prints, and its log. All of it is a function of these three.
-/

namespace RegisterMachine

open Text (Bytes)

/-- What a call of the simulator leaves behind. -/
structure Exit where
  code : Nat
  stdout : String
  stderr : String
  log : List Record

namespace Exit

/-- Ends in failure. -/
def failed (e : SimulatorError) (stdout : String) (log : List Record) : Exit :=
  ⟨1, stdout, "error: " ++ e.message ++ "\n", log⟩

/-- Ends without failure. -/
def done (stdout : String) (log : List Record) : Exit := ⟨0, stdout, "", log⟩

/-- Ends because the arguments are refused. Help that was asked for is no error message,
but the command was not carried out. -/
def misused : UsageError → Exit
  | .helpWanted => ⟨1, usageText ++ "\n", "", []⟩
  | e => ⟨1, "", "error: " ++ e.message ++ "\n" ++ usageText ++ "\n", []⟩

end Exit

/-- Whether a record is logged. A quiet run logs warnings only, and no run logs each
command. -/
def isLogged (verbose : Bool) (r : Record) : Bool :=
  match r.level with
  | .warn => true
  | .debug => verbose
  | .trace => false

/-- The input tape of a run. -/
def loadInput (files : Files) : Option TapeSource → Except SimulatorError (List Value)
  | none => .ok []
  | some (.file path) => loadTape files path
  | some (.inline values) => parseTape values

/-- All that a session starts from. -/
structure Prepared where
  program : Program
  input : List Value
  settings : Settings

/-- Loads what a run needs: first the program, then the tape, then the settings. -/
def RunRequest.prepare (r : RunRequest) (host : Host) :
    Except SimulatorError Prepared × List Record :=
  match loadProgram host.files r.program with
  | (.error e, log) => (.error e, log)
  | (.ok program, log) =>
    match loadInput host.files r.tape with
    | .error e => (.error e, log)
    | .ok input =>
      match resolveSettings host r.settings r.overrides with
      | (.error e, more) => (.error e, log ++ more)
      | (.ok settings, more) => (.ok ⟨program, input, settings⟩, log ++ more)

/-- What a run prints behind the console's texts: the output tape, if the program came to
its end. -/
def SessionReport.printed (report : SessionReport) : String :=
  match report.ending with
  | .halted => Tape.rows report.output.toList
  | .exited => ""

/-- Ends as a session did that has shown the given text. -/
def Exit.ofSession (result : Except SessionError SessionReport) (shown : String)
    (log : List Record) : Exit :=
  match result with
  | .error e => .failed (.ofSession e) shown log
  | .ok report => .done (shown ++ report.printed) log

/-- Runs a program on a terminal that reads the given bytes. -/
def RunRequest.execute (r : RunRequest) (host : Host) (stdin : Bytes) : Exit :=
  let logged := List.filter (isLogged r.verbose)
  match r.prepare host with
  | (.error e, log) => .failed e "" (logged log)
  | (.ok p, log) =>
    let terminal : Terminal := { unread := stdin }
    let (result, t) := runSession p.program p.input p.settings terminal
    .ofSession result t.screen (logged (log ++ t.journal.toList))

/-- Prints the listing of a program. -/
def executeCheck (files : Files) (path : Bytes) : Exit :=
  match loadProgram files path with
  | (.error e, log) => .failed e "" (log.filter (isLogged false))
  | (.ok program, log) => .done program.listing (log.filter (isLogged false))

/-- Carries out a call of the simulator. -/
def simulate (host : Host) (stdin : Bytes) (args : List Bytes) : Exit :=
  match Request.ofArguments args with
  | .error e => .misused e
  | .ok .help => .done (usageText ++ "\n") []
  | .ok (.run request) => request.execute host stdin
  | .ok (.check program) => executeCheck host.files program

end RegisterMachine
