import RegisterMachine.Text.GraphemeExtend
import RegisterMachine.Text.Unprintable

/-!
# Quoted text

Messages show foreign text between double quotes, with every character that
could not be told apart on screen written as an escape. A quoted text holds no
line break and no invisible character, so a message stays on one line.
-/

namespace RegisterMachine.Text

/-- A character by its code point, in lower-case hexadecimal digits. -/
def codePointEscape (c : Char) : String :=
  "\\u\x7b" ++ String.ofList (Nat.toDigits 16 c.toNat) ++ "\x7d"

/-- A character as it stands in quoted text. The short escapes come first; a
grapheme extender or an unprintable character is written by its code point. -/
def quoteChar (c : Char) : String :=
  match c with
  | '\x00' => "\\0"
  | '\t' => "\\t"
  | '\n' => "\\n"
  | '\r' => "\\r"
  | '"' => "\\\""
  | '\\' => "\\\\"
  | _ =>
    if extendsGrapheme c || !isPrintable c then codePointEscape c
    else String.singleton c

/-- A text between double quotes. -/
def quote (s : String) : String :=
  "\"" ++ String.join (s.toList.map quoteChar) ++ "\""

end RegisterMachine.Text
