/-!
# UTF-8

`encode` writes a text as bytes. Bytes are decoded one at a time by a small machine:
`decode?` refuses ill-formed bytes, and `decodeLossy` puts the replacement character
in place of every maximal run of bytes that starts a character and cannot end it, and
of every byte that cannot start one.
-/

namespace RegisterMachine.Text

/-- Bytes, as files and arguments hold them. -/
abbrev Bytes := List UInt8

/-- Where a decoder stands: between characters, or in a character of which the
bits `code` are known and `owed` bytes are still to come, the next of them from
`low` to `high`. -/
inductive Utf8State where
  | between
  | within (code owed : Nat) (low high : UInt8)
  deriving DecidableEq, Repr

/-- What a byte leads to. -/
inductive Utf8Step where
  | goOn (state : Utf8State)
  | complete (c : Char)
  | illFormed
  deriving DecidableEq, Repr

/-- What the first byte of a character leads to. The bounds on the second byte
shut out overlong forms, surrogates and values past the last code point. -/
def Utf8Step.first (b : UInt8) : Utf8Step :=
  let n := b.toNat
  if n < 0x80 then .complete (Char.ofNat n)
  else if n < 0xC2 then .illFormed
  else if n < 0xE0 then .goOn (.within (n - 0xC0) 1 0x80 0xBF)
  else if n = 0xE0 then .goOn (.within 0 2 0xA0 0xBF)
  else if n = 0xED then .goOn (.within 0xD 2 0x80 0x9F)
  else if n < 0xF0 then .goOn (.within (n - 0xE0) 2 0x80 0xBF)
  else if n = 0xF0 then .goOn (.within 0 3 0x90 0xBF)
  else if n < 0xF4 then .goOn (.within (n - 0xF0) 3 0x80 0xBF)
  else if n = 0xF4 then .goOn (.within 4 3 0x80 0x8F)
  else .illFormed

/-- What a byte leads to. -/
def Utf8State.feed (b : UInt8) : Utf8State → Utf8Step
  | .between => .first b
  | .within code owed low high =>
    if low ≤ b ∧ b ≤ high then
      let code := 64 * code + (b.toNat - 0x80)
      if owed ≤ 1 then .complete (Char.ofNat code)
      else .goOn (.within code (owed - 1) 0x80 0xBF)
    else .illFormed

/-- Decodes the rest of a text from a state. -/
def decodeFrom? (state : Utf8State) : Bytes → Option (List Char)
  | [] => if state = .between then some [] else none
  | b :: bs =>
    match state.feed b with
    | .illFormed => none
    | .goOn state => decodeFrom? state bs
    | .complete c => (decodeFrom? .between bs).map (c :: ·)

/-- The text of well-formed bytes. -/
def decode? (bytes : Bytes) : Option String :=
  (decodeFrom? .between bytes).map String.ofList

/-- The character in place of what cannot be decoded. -/
def replacement : Char := '�'

/-- Decodes the rest of a text from a state, ill-formed bytes replaced. A byte
that breaks a character off may start the next one. -/
def decodeLossyFrom (state : Utf8State) : Bytes → List Char
  | [] => if state = .between then [] else [replacement]
  | b :: bs =>
    match state.feed b with
    | .goOn state => decodeLossyFrom state bs
    | .complete c => c :: decodeLossyFrom .between bs
    | .illFormed =>
      if state = .between then replacement :: decodeLossyFrom .between bs
      else
        match Utf8Step.first b with
        | .goOn state => replacement :: decodeLossyFrom state bs
        | .complete c => replacement :: c :: decodeLossyFrom .between bs
        | .illFormed => replacement :: replacement :: decodeLossyFrom .between bs

/-- The text of bytes, ill-formed ones replaced. -/
def decodeLossy (bytes : Bytes) : String :=
  String.ofList (decodeLossyFrom .between bytes)

/-- A byte that goes on a character: its last six bits. -/
def continuation (n : Nat) : UInt8 := UInt8.ofNat (0x80 + n % 64)

/-- The bytes of a character, as few as hold its code. -/
def encodeChar (c : Char) : Bytes :=
  let n := c.toNat
  if n < 0x80 then [UInt8.ofNat n]
  else if n < 0x800 then [UInt8.ofNat (0xC0 + n / 64), continuation n]
  else if n < 0x10000 then
    [UInt8.ofNat (0xE0 + n / 4096), continuation (n / 64), continuation n]
  else
    [UInt8.ofNat (0xF0 + n / 262144), continuation (n / 4096), continuation (n / 64),
      continuation n]

/-- The bytes of a text. -/
def encode (s : String) : Bytes := s.toList.flatMap encodeChar

end RegisterMachine.Text
