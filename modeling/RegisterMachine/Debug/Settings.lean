import RegisterMachine.Numeric.Duration
import RegisterMachine.Numeric.Shortest

/-!
# Settings

How a session runs: how many commands at most, whether frames are shown, whether
an operator is asked between commands, how long a frame stays, and how many rows
it has.
-/

namespace RegisterMachine

/-- How a session runs. -/
structure Settings where
  /-- The most snapshots that a session may record. -/
  instructionLimit : Nat := 10000
  /-- Whether frames are shown, with a delay in between. -/
  logging : Bool := false
  /-- Whether the operator is asked in front of every command. -/
  interactive : Bool := false
  /-- How many seconds a frame stays when nobody is asked. -/
  delaySeconds : Binary64 := Binary64.ofNat 1
  /-- How many snapshots a frame shows. -/
  frameRows : Nat := 10
  deriving DecidableEq, Repr

/-- Why settings are refused. -/
inductive SettingsError where
  | zeroLimit
  | invalidDelay (seconds : Binary64)
  deriving DecidableEq, Repr

/-- The wording of a refusal. -/
def SettingsError.message : SettingsError → String
  | .zeroLimit => "maxInstructions must be at least 1"
  | .invalidDelay seconds =>
    "timeoutSeconds must be a finite, non-negative number (got " ++ seconds.plainText ++ ")"

namespace Settings

/-- Whether frames are shown at all. -/
def renders (s : Settings) : Bool := s.logging || s.interactive

/-- Refuses a limit of zero first, then a delay that is not finite or below
zero. -/
def validate (s : Settings) : Except SettingsError Unit :=
  if s.instructionLimit = 0 then .error .zeroLimit
  else if !s.delaySeconds.isFinite || s.delaySeconds.isBelowZero then
    .error (.invalidDelay s.delaySeconds)
  else .ok ()

/-- The delay as a span of time. -/
def delay (s : Settings) : Except SettingsError Duration :=
  match Duration.ofSeconds? s.delaySeconds with
  | some d => .ok d
  | none => .error (.invalidDelay s.delaySeconds)

/-- The settings on one line, every field by name. -/
def text (s : Settings) : String :=
  "SimulatorConfig \x7b max_instructions: " ++ toString s.instructionLimit ++
    ", logging: " ++ toString s.logging ++
    ", debug: " ++ toString s.interactive ++
    ", timeout_seconds: " ++ s.delaySeconds.debugText ++
    ", num_of_lines_logged: " ++ toString s.frameRows ++ " \x7d"

end Settings

/-- Settings given on the command line, on top of those of a file. -/
structure Overrides where
  interactive : Bool := false
  logging : Bool := false
  instructionLimit : Option Nat := none
  deriving DecidableEq, Repr

/-- Switches the chosen flags on and replaces the limit if one is given. -/
def Overrides.apply (o : Overrides) (s : Settings) : Settings :=
  { s with
    interactive := s.interactive || o.interactive
    logging := s.logging || o.logging
    instructionLimit := o.instructionLimit.getD s.instructionLimit }

end RegisterMachine
