import RegisterMachine.Json.Token

/-!
# Reading JSON

The tokens of a text are put together by a machine with a stack of the arrays and
objects that are still open. It takes one token at a time, so nesting of any depth
is read in one pass.
-/

namespace RegisterMachine.Json

/-- An open array or object: what it holds so far, in reverse, and for an object the
key whose value is being read. -/
inductive Frame where
  | array (items : List Json)
  | member (members : List (List Char × Json)) (key : List Char)

/-- What may come next, inside the open frames. -/
inductive ReadState where
  /-- A value. -/
  | value (outer : List Frame)
  /-- A value or the end of an array just opened. -/
  | firstItem (outer : List Frame)
  /-- A key or the end of an object just opened. -/
  | firstKey (outer : List Frame)
  /-- A key. -/
  | key (members : List (List Char × Json)) (outer : List Frame)
  /-- The colon behind a key. -/
  | colon (members : List (List Char × Json)) (key : List Char) (outer : List Frame)
  /-- Whatever follows a complete value. -/
  | after (value : Json) (outer : List Frame)

namespace ReadState

/-- A token where a value must come. -/
def begin? (token : Token) (outer : List Frame) : Option ReadState :=
  match token with
  | .null => some (.after .null outer)
  | .bool b => some (.after (.bool b) outer)
  | .number n => some (.after (.number n) outer)
  | .string raw => some (.after (.string raw) outer)
  | .leftBracket => some (.firstItem outer)
  | .leftBrace => some (.firstKey outer)
  | _ => none

/-- What a token leads to. -/
def feed? (state : ReadState) (token : Token) : Option ReadState :=
  match state with
  | .value outer => begin? token outer
  | .firstItem outer =>
    if token = .rightBracket then some (.after (.array []) outer)
    else begin? token (.array [] :: outer)
  | .firstKey outer =>
    match token with
    | .rightBrace => some (.after (.object []) outer)
    | .string raw => some (.colon [] raw outer)
    | _ => none
  | .key members outer =>
    match token with
    | .string raw => some (.colon members raw outer)
    | _ => none
  | .colon members name outer =>
    if token = .colon then some (.value (.member members name :: outer)) else none
  | .after j (.array items :: outer) =>
    match token with
    | .comma => some (.value (.array (j :: items) :: outer))
    | .rightBracket => some (.after (.array (j :: items).reverse) outer)
    | _ => none
  | .after j (.member members name :: outer) =>
    match token with
    | .comma => some (.key ((name, j) :: members) outer)
    | .rightBrace => some (.after (.object ((name, j) :: members).reverse) outer)
    | _ => none
  | .after _ [] => none

/-- The value that has been read, when nothing is left open. -/
def finish? : ReadState → Option Json
  | .after j [] => some j
  | _ => none

end ReadState

/-- The value of a list of tokens. -/
def ofTokens? (tokens : List Token) : Option Json :=
  (tokens.foldlM ReadState.feed? (.value [])).bind ReadState.finish?

/-- The value of a text; blanks may stand around every token. -/
def parse? (s : String) : Option Json :=
  (tokens? s.toList).bind ofTokens?

end RegisterMachine.Json
