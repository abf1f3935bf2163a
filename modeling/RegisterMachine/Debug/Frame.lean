import RegisterMachine.Engine.Snapshot
import RegisterMachine.Text.Blank

/-!
# Frames and listings

A frame shows the registers and the most recent snapshots, the newest of them
marked; it has the same number of rows whatever the length of the history. The
listing of states shows every snapshot in full.
-/

namespace RegisterMachine

/-- The number of a snapshot behind a mark, in columns. -/
def indexText (index : Nat) : String :=
  "#" ++ Text.padRight 4 (toString index)

/-- The row of a snapshot in a frame. The newest snapshot holds the command about
to be performed and carries an arrow. -/
def frameRow (newest index : Nat) (s : Snapshot) : String :=
  (if index = newest then "->" else "  ") ++ " " ++ indexText index ++ " " ++ s.command.text ++ "\n"

/-- The registers, an empty row, the last `rows` snapshots, and empty rows in
place of snapshots that are not there yet. -/
def renderFrame (history : Array Snapshot) (registers : Registers) (rows : Nat) : String :=
  let start := history.size - rows
  let recent := (history.extract start history.size).toList.zipIdx start
  "registers: " ++ registers.text ++ "\n\n" ++
    String.join (recent.map fun (s, index) => frameRow (history.size - 1) index s) ++
    String.ofList (List.replicate (rows - recent.length) '\n')

/-- Every snapshot on a row of its own behind its number. -/
def renderStates (history : Array Snapshot) : String :=
  if history.isEmpty then "no snapshots recorded\n"
  else
    String.join <| history.toList.zipIdx.map fun (s, index) =>
      indexText index ++ " " ++ s.text ++ "\n"

end RegisterMachine
