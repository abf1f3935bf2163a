import RegisterMachine.Debug.Settings
import RegisterMachine.Text.Numeral
import RegisterMachine.Text.Utf8

/-!
# Command-line arguments

The arguments of the simulator are read from left to right into a request. Options may
stand in any order, before and after the program.
-/

namespace RegisterMachine

open Text (Bytes)

/-- Where the input tape comes from. -/
inductive TapeSource where
  | file (path : Bytes)
  | inline (values : String)
  deriving DecidableEq, Repr

/-- What to run, and how. -/
structure RunRequest where
  program : Bytes
  tape : Option TapeSource := none
  settings : Option Bytes := none
  overrides : Overrides := {}
  verbose : Bool := false
  deriving DecidableEq, Repr

/-- What the simulator is asked to do. -/
inductive Request where
  | help
  | run (request : RunRequest)
  | check (program : Bytes)
  deriving DecidableEq, Repr

/-- The files that a request may read. -/
def Request.paths : Request → List Bytes
  | help => []
  | run r =>
    let tape := match r.tape with
      | some (.file path) => [path]
      | _ => []
    [r.program] ++ tape ++ r.settings.toList
  | check program => [program]

/-- Why arguments are refused. -/
inductive UsageError where
  | helpWanted
  | missingCommand
  | unknownCommand (name : String)
  | unknownOption (name : String)
  | missingValue (name : String)
  | repeatedTape
  | invalidLimit (value : String)
  | multiplePrograms
  | missingProgram
  deriving DecidableEq, Repr

/-- How the simulator is used. -/
def usageText : String :=
  "Usage: ram-sim <command> [options]\n" ++
  "\n" ++
  "Commands:\n" ++
  "  run   <program> [options]  Run a program and print its output tape\n" ++
  "  check <program>            Compile a program and print the numbered listing\n" ++
  "\n" ++
  "Options (run):\n" ++
  "  -i, --input <file>          Read the input tape from a file\n" ++
  "  -t, --tape <values>         Input tape given inline, e.g. \"4,5,6\"\n" ++
  "  -c, --config <file>         JSON configuration file\n" ++
  "  -d, --debug                 Step interactively at a debugger prompt\n" ++
  "  -l, --logging               Render a frame before every step\n" ++
  "      --max-instructions <n>  Abort once more than <n> steps are recorded\n" ++
  "  -v, --verbose               Log diagnostics to stderr\n" ++
  "  -h, --help                  Show this help message\n" ++
  "\n" ++
  "Examples:\n" ++
  "  ram-sim run factorial.ram --tape 5\n" ++
  "  ram-sim run factorial.ram -i input.txt --debug\n" ++
  "  ram-sim check factorial.ram\n"

/-- The wording of a refusal. -/
def UsageError.message : UsageError → String
  | .helpWanted => usageText
  | .missingCommand => "missing command"
  | .unknownCommand name => "unknown command: " ++ name
  | .unknownOption name => "unknown option: " ++ name
  | .missingValue name => "missing value for " ++ name
  | .repeatedTape => "input tape given more than once"
  | .invalidLimit value => "invalid value for --max-instructions: " ++ value
  | .multiplePrograms => "multiple program paths provided"
  | .missingProgram => "missing program path"

/-- An option of a run. -/
inductive RunOption where
  | help | debug | logging | verbose | input | tape | config | maxInstructions
  deriving DecidableEq, Repr

/-- The options of a run by their names. -/
def RunOption.names : List (String × RunOption) :=
  [("--help", .help), ("-h", .help), ("--debug", .debug), ("-d", .debug),
    ("--logging", .logging), ("-l", .logging), ("--verbose", .verbose), ("-v", .verbose),
    ("--input", .input), ("-i", .input), ("--tape", .tape), ("-t", .tape),
    ("--config", .config), ("-c", .config), ("--max-instructions", .maxInstructions)]

/-- Whether an argument looks like an option. -/
def looksLikeOption (s : String) : Bool := s.toList.head? = some '-'

/-- A run as far as the arguments have told it. -/
structure RunDraft where
  program : Option Bytes := none
  tape : Option TapeSource := none
  settings : Option Bytes := none
  overrides : Overrides := {}
  verbose : Bool := false

namespace RunDraft

/-- Takes the value of an option that has one. A second tape has been refused before. -/
def withValue (d : RunDraft) (option : RunOption) (value : Bytes) : Except UsageError RunDraft :=
  match option with
  | .input => .ok { d with tape := some (.file value) }
  | .tape => .ok { d with tape := some (.inline (Text.decodeLossy value)) }
  | .config => .ok { d with settings := some value }
  | .maxInstructions =>
    match Text.count? (Text.decodeLossy value).toList with
    | some n => .ok { d with overrides := { d.overrides with instructionLimit := some n } }
    | none => .error (.invalidLimit (Text.decodeLossy value))
  | _ => .ok d

/-- Takes an argument that is no option of a run. -/
def withProgram (d : RunDraft) (arg : Bytes) : Except UsageError RunDraft :=
  if looksLikeOption (Text.decodeLossy arg) then .error (.unknownOption (Text.decodeLossy arg))
  else if d.program.isSome then .error .multiplePrograms
  else .ok { d with program := some arg }

/-- Whether an option gives the tape. -/
def givesTape (option : RunOption) : Bool := option = .input || option = .tape

/-- Takes the arguments one after the other. -/
def fill (d : RunDraft) : List Bytes → Except UsageError RunDraft
  | [] => .ok d
  | arg :: rest =>
    match RunOption.names.lookup (Text.decodeLossy arg) with
    | none =>
      match d.withProgram arg with
      | .error e => .error e
      | .ok d => d.fill rest
    | some .help => .error .helpWanted
    | some .debug => fill { d with overrides := { d.overrides with interactive := true } } rest
    | some .logging => fill { d with overrides := { d.overrides with logging := true } } rest
    | some .verbose => fill { d with verbose := true } rest
    | some option =>
      if givesTape option && d.tape.isSome then .error .repeatedTape
      else
        match rest with
        | [] => .error (.missingValue (Text.decodeLossy arg))
        | value :: rest =>
          match d.withValue option value with
          | .error e => .error e
          | .ok d => d.fill rest

/-- The request, if a program has been named. -/
def finish (d : RunDraft) : Except UsageError RunRequest :=
  match d.program with
  | none => .error .missingProgram
  | some program => .ok ⟨program, d.tape, d.settings, d.overrides, d.verbose⟩

end RunDraft

/-- The arguments of a run. -/
def RunRequest.ofArguments (args : List Bytes) : Except UsageError RunRequest :=
  match RunDraft.fill {} args with
  | .error e => .error e
  | .ok d => d.finish

/-- The one program of a check, `found` having been named before. -/
def checkProgram (found : Option Bytes) : List Bytes → Except UsageError Bytes
  | [] =>
    match found with
    | none => .error .missingProgram
    | some program => .ok program
  | arg :: rest =>
    let name := Text.decodeLossy arg
    if name = "--help" || name = "-h" then .error .helpWanted
    else if looksLikeOption name then .error (.unknownOption name)
    else if found.isSome then .error .multiplePrograms
    else checkProgram (some arg) rest

/-- The arguments of the simulator. -/
def Request.ofArguments : List Bytes → Except UsageError Request
  | [] => .error .missingCommand
  | arg :: rest =>
    let name := Text.decodeLossy arg
    if name = "--help" || name = "-h" then .ok .help
    else if name = "run" then (RunRequest.ofArguments rest).map .run
    else if name = "check" then (checkProgram none rest).map .check
    else .error (.unknownCommand name)

end RegisterMachine
