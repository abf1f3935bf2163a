/-!
# Sets of code points as ranges

A property of code points is stored as an ascending list of inclusive ranges.
-/

namespace RegisterMachine.Text

/-- Whether some range of the table holds the code point `n`. -/
def inRanges (table : List (Nat × Nat)) (n : Nat) : Bool :=
  table.any fun range => range.1 ≤ n && n ≤ range.2

end RegisterMachine.Text
