/-!
# Blanks, words and lines

A text is cut into words at the code points with the Unicode property
White_Space, and into lines at line feeds. Cutting happens on lists of
characters; the functions on `String` wrap it.

- `Text.words` drops empty pieces, so blanks at either end and runs of blanks
  make no difference.
- `Text.lines` drops one carriage return in front of a line feed and yields no
  empty line after a final line feed.
-/

namespace RegisterMachine.Text

/-- The code points with the Unicode property White_Space. -/
def isBlank (c : Char) : Bool :=
  let n := c.toNat
  (0x09 ≤ n && n ≤ 0x0D) || n == 0x20 || n == 0x85 || n == 0xA0 || n == 0x1680 ||
    (0x2000 ≤ n && n ≤ 0x200A) || n == 0x2028 || n == 0x2029 || n == 0x202F ||
    n == 0x205F || n == 0x3000

/-- The non-empty pieces of a text between the characters that satisfy `p`. -/
def pieces (p : Char → Bool) (cs : List Char) : List (List Char) :=
  (cs.splitOnP p).filter fun piece => !piece.isEmpty

/-- The words of a text: its pieces between blanks. -/
def words (s : String) : List String :=
  (pieces isBlank s.toList).map String.ofList

/-- A text without the blanks at its ends. -/
def trim (s : String) : String :=
  String.ofList (((s.toList.dropWhile isBlank).reverse.dropWhile isBlank).reverse)

/-- A text with its ASCII capitals made small; other letters keep their case. -/
def lower (s : String) : String :=
  String.ofList (s.toList.map Char.toLower)

/-- A text with its small ASCII letters made capital; other letters keep their
case. -/
def upper (s : String) : String :=
  String.ofList (s.toList.map Char.toUpper)

/-- The lines of a character list. A line feed ends a line, and a carriage
return directly in front of it belongs to the line end. A text that does not
end in a line feed has a last line all the same. -/
def cutLines : List Char → List (List Char)
  | [] => []
  | '\n' :: cs => [] :: cutLines cs
  | '\r' :: '\n' :: cs => [] :: cutLines cs
  | c :: cs =>
    match cutLines cs with
    | [] => [[c]]
    | line :: rest => (c :: line) :: rest

/-- The lines of a text. -/
def lines (s : String) : List String :=
  (cutLines s.toList).map String.ofList

/-- A text padded with spaces on the right to at least `width` characters. -/
def padRight (width : Nat) (s : String) : String :=
  s ++ String.ofList (List.replicate (width - s.length) ' ')

end RegisterMachine.Text
