/-!
# Phases of a debugging session
-/

namespace RegisterMachine

/-- What a debugger is about. -/
inductive Phase where
  /-- Stepping, with frames shown when the settings ask for them. -/
  | running
  /-- Stepping silently until the pointer reaches the line. -/
  | suspendedUntil (line : Nat)
  /-- Stepping silently to the end. -/
  | continuing
  /-- A frame is shown and the operator is being asked. -/
  | paused
  /-- The operator has ended the session. -/
  | terminated
  deriving DecidableEq, Repr

/-- What follows an operator's command. -/
inductive Verdict where
  /-- The pending command is performed. -/
  | resume
  /-- The operator is asked again. -/
  | stay
  /-- The session ends. -/
  | exit
  deriving DecidableEq, Repr

/-- How a session ended. -/
inductive SessionEnd where
  | halted
  | exited
  deriving DecidableEq, Repr

/-- The name of an ending. -/
def SessionEnd.text : SessionEnd → String
  | .halted => "Halted"
  | .exited => "Exited"

end RegisterMachine
