import RegisterMachine.Text.Blank
import RegisterMachine.Text.Numeral
import RegisterMachine.Text.Quoted

/-!
# The operator's commands

An operator's line is a command name and, for two of the commands, an argument.
Case and the amount of blank space make no difference; an empty line means
`step`.
-/

namespace RegisterMachine

/-- What an operator can ask for. -/
inductive OperatorCommand where
  | step
  | help
  | exit
  | proceed
  | reset
  | states
  | rollback (index : Nat)
  | suspendUntil (line : Nat)
  deriving DecidableEq, Repr

/-- Why an operator's line is refused. -/
inductive OperatorError where
  | unknownCommand (word : String)
  | missingArgument (command : String)
  | invalidArgument (command argument : String)
  | snapshotOutOfRange (index size : Nat)
  | lineOutOfRange (line size : Nat)
  deriving DecidableEq, Repr

/-- The wording of a refusal. -/
def OperatorError.message : OperatorError → String
  | .unknownCommand word =>
    "unknown command " ++ Text.quote word ++ "; type `help` for the command list"
  | .missingArgument command => "`" ++ command ++ "` needs an argument"
  | .invalidArgument command argument =>
    "`" ++ command ++ "` cannot use argument " ++ Text.quote argument
  | .snapshotOutOfRange index size =>
    "no snapshot " ++ toString index ++ "; history holds " ++ toString size ++ " snapshot(s)"
  | .lineOutOfRange line size =>
    "line " ++ toString line ++ " is outside the program (1..=" ++ toString size ++
      ", or 0 to never suspend)"

namespace OperatorCommand

/-- The name of a command. -/
def name : OperatorCommand → String
  | step => "step"
  | help => "help"
  | exit => "exit"
  | proceed => "continue"
  | reset => "reset"
  | states => "states"
  | rollback _ => "rollback"
  | suspendUntil _ => "suspenduntil"

/-- The argument of a command that takes one. -/
def argument? : OperatorCommand → Option Nat
  | rollback index => some index
  | suspendUntil line => some line
  | _ => none

/-- The commands that stand alone. -/
def plain : List OperatorCommand := [step, help, exit, proceed, reset, states]

/-- Takes a command unless a word is left over. -/
def unlessSurplus (command : OperatorCommand) : List String → Except OperatorError OperatorCommand
  | [] => .ok command
  | surplus :: _ => .error (.invalidArgument command.name surplus)

/-- Reads the argument of the command `name`. A bad argument is reported before a
surplus word. -/
def withArgument (name : String) (build : Nat → OperatorCommand) :
    List String → Except OperatorError OperatorCommand
  | [] => .error (.missingArgument name)
  | word :: rest =>
    match Text.count? word.toList with
    | none => .error (.invalidArgument name word)
    | some n => unlessSurplus (build n) rest

/-- Reads the words of a line. -/
def ofWords : List String → Except OperatorError OperatorCommand
  | [] => .ok step
  | word :: rest =>
    if word = "rollback" then withArgument word rollback rest
    else if word = "suspenduntil" then withArgument word suspendUntil rest
    else
      match plain.find? fun c => c.name = word with
      | some command => unlessSurplus command rest
      | none => .error (.unknownCommand word)

/-- Reads an operator's line. -/
def parse (line : String) : Except OperatorError OperatorCommand :=
  ofWords (Text.words (Text.lower line))

/-- What `help` shows. -/
def helpText : String :=
  "Commands:\n" ++
  "  <enter>, step       Execute the pending command\n" ++
  "  continue            Run to the end without rendering\n" ++
  "  states              List every snapshot with its index\n" ++
  "  rollback <index>    Restore the engine to snapshot <index>\n" ++
  "  reset               Same as `rollback 0`\n" ++
  "  suspenduntil <line> Run silently until <line> is reached (0 = never)\n" ++
  "  help                Show this list\n" ++
  "  exit                End the session"

end OperatorCommand

/-- Whether an answer says yes. -/
def isAffirmative (answer : String) : Bool :=
  let word := Text.lower (Text.trim answer)
  word = "y" || word = "yes"

end RegisterMachine
