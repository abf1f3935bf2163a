import RegisterMachine.Journal

/-!
# Consoles

A console shows texts, answers when the operator is asked, waits, and keeps the
journal. It is a value: each operation yields the console that comes after it.

A console has only so many lines to give. `Console.pending` bounds them, and
drops with every line that is read; a session with an operator ends because of
it. An operator who never stops typing has no such console. A session with them
need not end, and what one does that ends is what it does on the `Script` of the
lines that were read.
-/

namespace RegisterMachine

/-- Operations of a console whose state is `σ`. -/
class Console (σ : Type) where
  /-- Shows a text. -/
  display : σ → String → σ
  /-- Asks for the operator's next line; `none` means that there is none. -/
  ask : σ → Option String × σ
  /-- Waits. -/
  pause : σ → Duration → σ
  /-- Adds a record to the journal. -/
  note : σ → Record → σ
  /-- A bound on the lines still to be read. -/
  pending : σ → Nat
  pending_display (s : σ) (text : String) : pending (display s text) ≤ pending s
  pending_ask (s : σ) : pending (ask s).2 ≤ pending s
  pending_ask_lt (s : σ) : (ask s).1.isSome → pending (ask s).2 < pending s
  pending_pause (s : σ) (d : Duration) : pending (pause s d) ≤ pending s
  pending_note (s : σ) (r : Record) : pending (note s r) ≤ pending s

/-- A console without an operator that shows nothing. -/
structure SilentConsole where
  journal : Array Record := #[]

instance : Console SilentConsole where
  display s _ := s
  ask s := (none, s)
  pause s _ := s
  note s r := ⟨s.journal.push r⟩
  pending _ := 0
  pending_display _ _ := Nat.le_refl _
  pending_ask _ := Nat.le_refl _
  pending_ask_lt _ h := nomatch h
  pending_pause _ _ := Nat.le_refl _
  pending_note _ _ := Nat.le_refl _

/-- A console with the operator's answers laid down in advance. An answer is a
line, or `none` for input that is closed at this point; when no answer is left,
input stays closed. All that is shown is kept. -/
structure Script where
  answers : List (Option String)
  shown : Array String := #[]
  pauses : Array Duration := #[]
  journal : Array Record := #[]

namespace Script

/-- Takes the next answer. -/
def take (s : Script) : Option String × Script :=
  match s.answers with
  | [] => (none, s)
  | answer :: rest => (answer, { s with answers := rest })

theorem length_take (s : Script) : s.take.2.answers.length ≤ s.answers.length := by
  unfold take
  split <;> simp_all

theorem length_take_lt {s : Script} (h : s.take.1.isSome) :
    s.take.2.answers.length < s.answers.length := by
  unfold take at *
  split <;> simp_all

end Script

instance : Console Script where
  display s text := { s with shown := s.shown.push text }
  ask := Script.take
  pause s d := { s with pauses := s.pauses.push d }
  note s r := { s with journal := s.journal.push r }
  pending s := s.answers.length
  pending_display _ _ := Nat.le_refl _
  pending_ask := Script.length_take
  pending_ask_lt _ := Script.length_take_lt
  pending_pause _ _ := Nat.le_refl _
  pending_note _ _ := Nat.le_refl _

end RegisterMachine
