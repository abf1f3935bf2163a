import RegisterMachine.Json.Number
import RegisterMachine.Json.Text

/-!
# JSON tokens

A text is cut into tokens by a machine that reads one character at a time. Numerals
and words end at the first character that cannot belong to them and are checked as
a whole.
-/

namespace RegisterMachine.Json

/-- A token of JSON text. -/
inductive Token where
  | leftBrace | rightBrace | leftBracket | rightBracket | colon | comma
  | null
  | bool (b : Bool)
  | number (n : JsonNumber)
  | string (raw : List Char)
  deriving DecidableEq, Repr

/-- What the machine is in the middle of. Characters are kept in reverse. -/
inductive LexState where
  | between
  | inString (raw : List Char)
  | inEscape (raw : List Char)
  | inHex (owed : Nat) (raw : List Char)
  | inNumber (text : List Char)
  | inWord (text : List Char)
  deriving DecidableEq, Repr

/-- The blank characters of JSON. -/
def isJsonBlank (c : Char) : Bool := c = ' ' || c = '\n' || c = '\t' || c = '\r'

/-- Whether a character can belong to a numeral. -/
def isNumberChar (c : Char) : Bool :=
  JsonNumber.isDigit c || c = '-' || c = '+' || c = '.' || c = 'e' || c = 'E'

/-- Whether a character can belong to a word. -/
def isWordChar (c : Char) : Bool := 'a' ≤ c && c ≤ 'z'

/-- The token of a numeral. -/
def numberToken? (text : List Char) : Option Token :=
  (JsonNumber.parse? text.reverse).map .number

/-- The token of a word. -/
def wordToken? (text : List Char) : Option Token :=
  let word := String.ofList text.reverse
  if word = "null" then some .null
  else if word = "true" then some (.bool true)
  else if word = "false" then some (.bool false)
  else none

/-- What a character between tokens leads to. -/
def LexState.start? (c : Char) : Option (List Token × LexState) :=
  if isJsonBlank c then some ([], .between)
  else if c = '\x7b' then some ([.leftBrace], .between)
  else if c = '\x7d' then some ([.rightBrace], .between)
  else if c = '[' then some ([.leftBracket], .between)
  else if c = ']' then some ([.rightBracket], .between)
  else if c = ':' then some ([.colon], .between)
  else if c = ',' then some ([.comma], .between)
  else if c = '"' then some ([], .inString [])
  else if c = '-' || JsonNumber.isDigit c then some ([], .inNumber [c])
  else if isWordChar c then some ([], .inWord [c])
  else none

/-- Puts a token in front of what a character leads to. -/
def LexState.after? (token : Option Token) (c : Char) : Option (List Token × LexState) :=
  match token, start? c with
  | some t, some (ts, state) => some (t :: ts, state)
  | _, _ => none

/-- What a character leads to: the tokens it completes and the next state. -/
def LexState.feed? (c : Char) : LexState → Option (List Token × LexState)
  | .between => start? c
  | .inString raw =>
    if c = '"' then some ([.string raw.reverse], .between)
    else if c = '\\' then some ([], .inEscape (c :: raw))
    else if c.toNat < 0x20 then none
    else some ([], .inString (c :: raw))
  | .inEscape raw =>
    if c = 'u' then some ([], .inHex 4 (c :: raw))
    else if (escaped? c).isSome then some ([], .inString (c :: raw))
    else none
  | .inHex owed raw =>
    if (hexDigit? c).isSome then
      some ([], if owed ≤ 1 then .inString (c :: raw) else .inHex (owed - 1) (c :: raw))
    else none
  | .inNumber text =>
    if isNumberChar c then some ([], .inNumber (c :: text)) else after? (numberToken? text) c
  | .inWord text =>
    if isWordChar c then some ([], .inWord (c :: text)) else after? (wordToken? text) c

/-- What the end of the text leads to. -/
def LexState.finish? : LexState → Option (List Token)
  | .between => some []
  | .inNumber text => (numberToken? text).map ([·])
  | .inWord text => (wordToken? text).map ([·])
  | _ => none

/-- The tokens of the rest of a text. -/
def tokensFrom? (state : LexState) : List Char → Option (List Token)
  | [] => state.finish?
  | c :: cs =>
    match state.feed? c with
    | some (ts, state) => (tokensFrom? state cs).map (ts ++ ·)
    | none => none

/-- The tokens of a text. -/
def tokens? (cs : List Char) : Option (List Token) := tokensFrom? .between cs

end RegisterMachine.Json
