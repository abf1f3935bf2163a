import RegisterMachine.Debug.Live
import RegisterMachine.Shell.Simulator

/-!
# The command line

The outer layer of the simulator: it reads the files that the arguments name, puts each
question to the operator, writes what is shown and waits. Everything that it decides
about is decided by the functions that it calls.
-/

namespace RegisterMachine.CommandLine

open Text (Bytes)

/-! ## Files -/

/-- The number of an error. Some calls of the system yield it negated. -/
def errorNumber (code : UInt32) : Nat := (if code < 0x80000000 then code else 0 - code).toNat

/-- A failure that has a number, in the words of the system. -/
def numberedFailure (code : UInt32) (details : String) : ReadFailure :=
  match errorNumber code with
  | 2 => .notFound
  | 20 => .notDirectory
  | 21 => .isDirectory
  | 36 => .nameTooLong
  | number => .system (details ++ " (os error " ++ toString number ++ ")")

/-- Why the system could not read a file. -/
def readFailure : IO.Error → ReadFailure
  | .noFileOrDirectory _ code details => numberedFailure code details
  | .inappropriateType _ code details => numberedFailure code details
  | .permissionDenied _ code details => numberedFailure code details
  | e => .system (toString e)

/-- Reads a file. -/
def readPath (path : Bytes) : IO (Except ReadFailure Bytes) := do
  match Text.decode? path with
  | none => return .error .notFound
  | some name =>
    try
      return .ok (← IO.FS.readBinFile name).toList
    catch e => return .error (readFailure e)

/-- Why a settings text is refused. -/
def complaint (text : String) : String :=
  match Json.parse? text with
  | none => "not JSON"
  | some (.object members) =>
    let names := members.filterMap fun member => Json.decodeText? member.1
    match names.find? fun name => !Settings.jsonKeys.contains name with
    | some name => "unknown key " ++ Text.quote name
    | none => "a key is given twice, or has a value of another kind"
  | some _ => "neither an object nor an array of settings"

/-- Reads the files at the given paths. -/
def readPaths (paths : List Bytes) : IO Host := do
  let contents ← paths.mapM fun path => return (path, ← readPath path)
  return ⟨fun path => (contents.lookup path).getD (.error .notFound), complaint⟩

/-! ## The terminal -/

/-- Prints the records that are logged. -/
def printLog (verbose : Bool) (log : List Record) : IO Unit :=
  (log.filter (isLogged verbose)).forM fun r => IO.eprintln r.text

/-- The longest that the system is told to sleep at once, in milliseconds. -/
def longestSleep : Nat := 1000000000

/-- Waits for a span of time. -/
def wait (d : Duration) : IO Unit := do
  let milliseconds := d.seconds * 1000 + d.nanoseconds / 1000000
  for _ in [0:milliseconds / longestSleep] do
    IO.sleep longestSleep.toUInt32
  IO.sleep (milliseconds % longestSleep).toUInt32

/-- Writes what a terminal has been told to show, prints its journal, and waits as long
as it has been told to. -/
def flush (verbose : Bool) (t : Terminal) : IO Terminal := do
  unless t.screen.isEmpty do
    try
      let out ← IO.getStdout
      out.putStr t.screen
      out.flush
    catch e => printLog verbose [.writeFailed (toString e)]
  printLog verbose t.journal.toList
  t.pauses.forM wait
  return { t with screen := "", journal := #[], pauses := #[] }

/-- Reads bytes up to and including the next line feed. -/
partial def readLine (input : IO.FS.Stream) (line : Array UInt8) : IO Bytes := do
  match (← input.read 1).toList with
  | [] => return line.toList
  | b :: _ => if b = 0x0A then return (line.push b).toList else readLine input (line.push b)

/-! ## Sessions -/

/-- Puts questions to the operator until an answer resumes or ends the session; `true`
says that it resumes. -/
partial def talk (verbose : Bool) (question : Question) (d : Debugger) (t : Terminal) :
    IO (Bool × Debugger × Terminal) := do
  let t ← flush verbose t.invite
  let line ← readLine (← IO.getStdin) #[]
  let (answer, t) := { t with unread := line }.readLine
  match d.reply question answer t with
  | (.ask question, d, t) => talk verbose question d t
  | (.resume, d, t) => return (true, d, t)
  | (.leave, d, t) => return (false, d, t)

/-- Steps until the program halts or the operator ends the session. -/
partial def drive (verbose : Bool) (d : Debugger) (t : Terminal) :
    IO (Except Fault SessionEnd × Debugger × Terminal) := do
  if d.machine.isHalted then return (.ok .halted, d, t)
  let perform (d : Debugger) (t : Terminal) : IO (Except Fault SessionEnd × Debugger × Terminal) :=
    match d.execute t with
    | (.error f, d, t) => return (.error f, d, t)
    | (.ok .exited, d, t) => return (.ok .exited, d, t)
    | (.ok (.performed _), d, t) => do drive verbose d (← flush verbose t)
  match d.enter t with
  | (.exited, d, t) => return (.ok .exited, d, t)
  | (.faulted f, d, t) => return (.error f, d, t)
  | (.ready, d, t) => perform d (← flush verbose t)
  | (.prompting, d, t) =>
    match ← talk verbose .command d t with
    | (true, d, t) => perform d t
    | (false, d, t) => return (.ok .exited, d, t)

/-- Runs a program with the operator at the keyboard. Frames are redrawn in place if they
go to a terminal and nobody types in between. -/
def runLive (r : RunRequest) (host : Host) : IO Exit := do
  match r.prepare host with
  | (.error e, log) => return .failed e "" log
  | (.ok p, log) =>
    printLog r.verbose log
    let redraw := p.settings.logging && !p.settings.interactive && (← (← IO.getStdout).isTty)
    match Debugger.create (Machine.start p.program p.input) p.settings with
    | .error e => return .failed (.settings e) "" []
    | .ok d =>
      let (result, t) := concludeSession (← drive r.verbose d { unread := [], redraw })
      return .ofSession result t.screen t.journal.toList

/-- Prints what a call leaves behind. -/
def report (verbose : Bool) (exit : Exit) : IO UInt32 := do
  printLog verbose exit.log
  IO.print exit.stdout
  (← IO.getStdout).flush
  IO.eprint exit.stderr
  return exit.code.toUInt32

end RegisterMachine.CommandLine

open RegisterMachine RegisterMachine.CommandLine in
/-- Carries out the call. -/
def main (args : List String) : IO UInt32 := do
  let args := args.map Text.encode
  match Request.ofArguments args with
  | .ok (.run request) =>
    report request.verbose (← runLive request (← readPaths (Request.run request).paths))
  | .ok request => report false (simulate (← readPaths request.paths) [] args)
  | .error _ => report false (simulate ⟨fun _ => .error .notFound, complaint⟩ [] args)
