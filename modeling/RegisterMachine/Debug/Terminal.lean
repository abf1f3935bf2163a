import RegisterMachine.Debug.Console
import RegisterMachine.Text.Utf8

/-!
# Terminals

A terminal is a console over a stream of bytes to read from and a screen to write
to. With redrawing on, each text takes the place of the one before it: the cursor
moves up over the rows of the old text and erases them. What an operator types
stands below the last text, so nothing is erased after a prompt.

A screen either takes everything or fails at every write; failures go to the
journal and the session goes on.
-/

namespace RegisterMachine

/-- A byte stream and a screen. -/
structure Terminal where
  /-- The bytes not read yet. -/
  unread : Text.Bytes
  /-- Whether a text takes the place of the one before it. -/
  redraw : Bool := false
  /-- Why every write fails, if it does. -/
  failure : Option String := none
  /-- The rows of the last text, as far as it may be erased. -/
  drawnRows : Nat := 0
  /-- All that was written. -/
  screen : String := ""
  /-- How long the terminal was told to wait, in order. -/
  pauses : Array Duration := #[]
  journal : Array Record := #[]

/-- Cuts off the first line, its line feed included. -/
def cutLine : Text.Bytes → Text.Bytes × Text.Bytes
  | [] => ([], [])
  | b :: bs =>
    if b = 0x0A then ([b], bs)
    else
      let (line, rest) := cutLine bs
      (b :: line, rest)

theorem length_cutLine (bytes : Text.Bytes) : (cutLine bytes).2.length ≤ bytes.length := by
  induction bytes with
  | nil => exact Nat.le_refl _
  | cons b bs ih =>
    rw [cutLine]
    split
    · simp
    · simp only [List.length_cons]
      omega

theorem length_cutLine_lt {bytes : Text.Bytes} (h : bytes ≠ []) :
    (cutLine bytes).2.length < bytes.length := by
  cases bytes with
  | nil => exact absurd rfl h
  | cons b bs =>
    have := length_cutLine bs
    rw [cutLine]
    split
    · simp
    · simp only [List.length_cons]
      omega

namespace Terminal

/-- What the operator is asked with. -/
def prompt : String := "> "

/-- What a failed decoding is called in the journal. -/
def notUtf8 : String := "stream did not contain valid UTF-8"

/-- Adds a record to the journal. -/
def note (t : Terminal) (r : Record) : Terminal := { t with journal := t.journal.push r }

/-- A text with a line feed at its end. -/
def terminated (text : String) : String :=
  if text.toList.getLast? = some '\n' then text else text ++ "\n"

/-- The number of rows of a text that ends in a line feed. -/
def rows (text : String) : Nat := text.toList.count '\n'

/-- Moves the cursor up over the last text and erases from there on. -/
def erasure (t : Terminal) : String :=
  if t.redraw && 0 < t.drawnRows then "\x1b[" ++ toString t.drawnRows ++ "A\x1b[J" else ""

/-- Shows a text on rows of its own. -/
def display (t : Terminal) (text : String) : Terminal :=
  match t.failure with
  | some reason => t.note (.writeFailed reason)
  | none =>
    let body := terminated text
    { t with screen := t.screen ++ t.erasure ++ body, drawnRows := rows body }

/-- Writes the prompt, below which the operator's line will stand. -/
def invite (t : Terminal) : Terminal :=
  match t.failure with
  | some reason => { t with drawnRows := 0 }.note (.writeFailed reason)
  | none => { t with drawnRows := 0, screen := t.screen ++ prompt }

/-- A line without the carriage returns and line feeds at its end. -/
def chomp (s : String) : String :=
  String.ofList (s.toList.reverse.dropWhile fun c => c = '\r' || c = '\n').reverse

/-- The next line of the stream. A line that cannot be decoded is consumed and
counts as closed input. -/
def readLine (t : Terminal) : Option String × Terminal :=
  if t.unread.isEmpty then (none, t)
  else
    let (line, rest) := cutLine t.unread
    let t := { t with unread := rest }
    match Text.decode? line with
    | some s => (some (chomp s), t)
    | none => (none, t.note (.readFailed notUtf8))

/-- Writes the prompt and reads a line. -/
def ask (t : Terminal) : Option String × Terminal := t.invite.readLine

/-- Waits. -/
def pause (t : Terminal) (d : Duration) : Terminal := { t with pauses := t.pauses.push d }

theorem unread_display (t : Terminal) (text : String) : (t.display text).unread = t.unread := by
  unfold display
  split <;> rfl

theorem unread_invite (t : Terminal) : t.invite.unread = t.unread := by
  unfold invite
  split <;> rfl

theorem unread_readLine (t : Terminal) :
    t.readLine.2.unread = (cutLine t.unread).2 := by
  unfold readLine
  split
  · rename_i empty
    simp [List.isEmpty_iff.1 empty, cutLine]
  · simp only
    split <;> rfl

theorem unread_ne_nil_of_readLine {t : Terminal} (h : t.readLine.1.isSome) :
    t.unread ≠ [] := by
  intro empty
  simp [readLine, empty] at h

end Terminal

instance : Console Terminal where
  display := Terminal.display
  ask := Terminal.ask
  pause := Terminal.pause
  note := Terminal.note
  pending t := t.unread.length
  pending_display t text := Nat.le_of_eq (congrArg List.length (t.unread_display text))
  pending_ask t := by
    rw [Terminal.ask, Terminal.unread_readLine, Terminal.unread_invite]
    exact length_cutLine _
  pending_ask_lt t h := by
    have some := Terminal.unread_ne_nil_of_readLine h
    rw [Terminal.unread_invite] at some
    rw [Terminal.ask, Terminal.unread_readLine, Terminal.unread_invite]
    exact length_cutLine_lt some
  pending_pause _ _ := Nat.le_refl _
  pending_note _ _ := Nat.le_refl _

end RegisterMachine
