import RegisterMachine.Text.Blank
import RegisterMachine.Text.Numeral
import RegisterMachine.Text.Quoted

/-!
# Input tapes as text

A tape is written as integers with commas or blanks in between, any number of them.
-/

namespace RegisterMachine

/-- A token of a tape that is no integer, with its position from one. -/
structure TapeError where
  position : Nat
  token : String
  deriving DecidableEq, Repr

/-- The wording of a refused tape. -/
def TapeError.message (e : TapeError) : String :=
  "input value " ++ toString e.position ++ " (" ++ Text.quote e.token ++ ") is not an integer"

namespace Tape

/-- Whether a character stands between values. -/
def isSeparator (c : Char) : Bool := c = ',' || Text.isBlank c

/-- The values of tokens, the first of them at the given position. -/
def valuesFrom (position : Nat) : List (List Char) → Except TapeError (List Value)
  | [] => .ok []
  | token :: rest =>
    match Text.integer? token with
    | none => .error ⟨position, String.ofList token⟩
    | some v => (valuesFrom (position + 1) rest).map (v :: ·)

/-- Reads a tape. -/
def parse (s : String) : Except TapeError (List Value) :=
  valuesFrom 1 (Text.pieces isSeparator s.toList)

/-- Values on a row each. -/
def rows (values : List Value) : String :=
  String.join (values.map fun v => Value.text v ++ "\n")

end Tape

end RegisterMachine
