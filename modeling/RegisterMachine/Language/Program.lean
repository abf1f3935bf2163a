import RegisterMachine.Language.Command

/-!
# Programs

A program is a list of commands; line numbers start at one. Program text is read
line by line, and the first refused line refuses the whole text.
-/

namespace RegisterMachine

/-- A list of commands, the first of them on line one. -/
structure Program where
  commands : List Command
  deriving DecidableEq, Repr, Inhabited

/-- A refused line and why it is refused. -/
structure CompileError where
  line : Nat
  cause : LineError
  deriving DecidableEq, Repr

/-- The wording of a refused program. -/
def CompileError.message (e : CompileError) : String :=
  "line " ++ toString e.line ++ ": " ++ e.cause.message

namespace Program

/-- The number of lines. -/
def size (p : Program) : Nat := p.commands.length

/-- The command on a line. Line zero holds none. -/
def get? (p : Program) : Nat → Option Command
  | 0 => none
  | i + 1 => p.commands[i]?

/-- Whether the program has the line. -/
def hasLine (p : Program) (line : Nat) : Bool :=
  1 ≤ line && line ≤ p.size

/-- The commands of the lines `texts`, numbered from `line` on. -/
def commandsFrom (line : Nat) : List String → Except CompileError (List Command)
  | [] => .ok []
  | text :: rest =>
    match Command.parse text line with
    | .error cause => .error ⟨line, cause⟩
    | .ok c => (commandsFrom (line + 1) rest).map (c :: ·)

/-- The program of a list of lines. -/
def ofLines (texts : List String) : Except CompileError Program :=
  (commandsFrom 1 texts).map Program.mk

/-- The program of a text. -/
def ofText (source : String) : Except CompileError Program :=
  ofLines (Text.lines source)

/-- The commands with their line numbers, one on a row. -/
def listing (p : Program) : String :=
  String.join (p.commands.map fun c => c.text ++ "\n")

end Program

end RegisterMachine
