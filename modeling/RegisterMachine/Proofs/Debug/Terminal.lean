import Mathlib.Data.List.DropRight
import RegisterMachine.Debug.Terminal
import RegisterMachine.Proofs.Debug.Simulation

/-!
# A terminal is a script

What a terminal answers is laid down in the bytes of its stream, whether or not its
screen works and whether or not it redraws.  A session on it is therefore the session
on the script of these answers.

* `Stream.pieces` and `Script.ofStream`: the stream cut after each line feed, and the
  answers that its pieces come to.
* `Terminal.Plays`: the terminal and the script have the same answers left, have been
  called alike, and a plain screen that works holds what `writtenText` makes of the
  calls.
* `runSession_terminal`: a session on a terminal and the session on its script.
-/

namespace RegisterMachine

open Text (Bytes)

/-! ## The answers in a stream -/

/-- The stream cut after each line feed.  A rest without a line feed is the last piece. -/
def Stream.pieces : Bytes → List Bytes
  | [] => []
  | b :: bs =>
    if b = 0x0A then [b] :: pieces bs
    else
      match pieces bs with
      | [] => [[b]]
      | piece :: rest => (b :: piece) :: rest

/-- The answer that a piece comes to: its text without the carriage returns and line feeds
at its end, or none if it is not UTF-8. -/
def Stream.answer (piece : Bytes) : Option String :=
  (Text.decode? piece).map fun line =>
    String.ofList (line.toList.rdropWhile fun c => c = '\r' || c = '\n')

/-- The script of the answers in a stream. -/
def Script.ofStream (stream : Bytes) : Script where
  answers := (Stream.pieces stream).map Stream.answer

/-- The first piece is the line that a terminal cuts off. -/
theorem Stream.pieces_eq_cons {stream : Bytes} (more : stream ≠ []) :
    pieces stream = (cutLine stream).1 :: pieces (cutLine stream).2 := by
  induction stream with
  | nil => exact absurd rfl more
  | cons b bs ih =>
    rw [pieces, cutLine]
    split
    · rfl
    · cases bs with
      | nil => rfl
      | cons b' bs' => rw [ih (by simp)]

/-! ## What the calls write -/

/-- What a call writes on a screen that works and redraws nothing. -/
def Call.written : Call → String
  | .shown text => if text.toList.getLast? = some '\n' then text else text ++ "\n"
  | .read _ => "> "
  | .paused _ | .noted _ => ""

/-- What the calls write, in order. -/
def writtenText (calls : List Call) : String := String.join (calls.map Call.written)

theorem writtenText_concat (calls : List Call) (call : Call) :
    writtenText (calls ++ [call]) = writtenText calls ++ call.written := by
  simp [writtenText, String.join_append]

theorem Script.take_eq (s : Script) :
    s.take.1 = s.answers.headD none ∧ s.take.2.answers = s.answers.tail := by
  unfold take
  split <;> rename_i left <;> simp [left]

namespace Terminal

/-! ## The calls of a terminal -/

/-- A line that is read is the next answer in the stream. -/
theorem readLine_eq_answer (t : Terminal) :
    t.readLine.1 = ((Stream.pieces t.unread).map Stream.answer).headD none ∧
      Stream.pieces t.readLine.2.unread = (Stream.pieces t.unread).tail := by
  have rest := t.unread_readLine
  rcases t.unread.eq_nil_or_concat with empty | ⟨_, _, more⟩
  · have cut : cutLine t.unread = ([], []) := by rw [empty, cutLine]
    rw [rest, cut, empty]
    simp [readLine, empty, Stream.pieces]
  · have nonempty : t.unread ≠ [] := by simp [more]
    rw [rest, Stream.pieces_eq_cons nonempty]
    refine ⟨?_, rfl⟩
    have notEmpty : t.unread.isEmpty = false := by simpa using nonempty
    simp only [readLine, notEmpty, List.map_cons, List.headD_cons, Stream.answer]
    cases Text.decode? (cutLine t.unread).1 <;> rfl

theorem readLine_keeps (t : Terminal) :
    t.readLine.2.failure = t.failure ∧ t.readLine.2.redraw = t.redraw ∧
      t.readLine.2.screen = t.screen := by
  unfold readLine
  split
  · exact ⟨rfl, rfl, rfl⟩
  · simp only
    split <;> exact ⟨rfl, rfl, rfl⟩

/-- Whether writing works and whether the terminal redraws are settled once and for all. -/
theorem display_keeps (t : Terminal) (text : String) :
    (t.display text).failure = t.failure ∧ (t.display text).redraw = t.redraw := by
  unfold display
  split <;> exact ⟨rfl, rfl⟩

theorem invite_keeps (t : Terminal) :
    t.invite.failure = t.failure ∧ t.invite.redraw = t.redraw := by
  unfold invite
  split <;> exact ⟨rfl, rfl⟩

/-- A plain screen that works gets the text on rows of its own. -/
theorem screen_display {t : Terminal} (works : t.failure = none) (plain : t.redraw = false)
    (text : String) : (t.display text).screen = t.screen ++ (Call.shown text).written := by
  simp [display, works, erasure, plain, Call.written, terminated]

theorem screen_invite {t : Terminal} (works : t.failure = none) (answer : Option String) :
    t.invite.screen = t.screen ++ (Call.read answer).written := by
  simp [invite, works, Call.written, prompt]

/-! ## The terminal and the script -/

variable {failure : Option String} {redraw : Bool}

/-- The script has the answers that the terminal will give, both have had the same calls,
and a plain screen that works shows them.  Whether the screen works and whether it is
redrawn is settled once and for all. -/
structure Plays (failure : Option String) (redraw : Bool) (t : Transcribed Terminal)
    (s : Transcribed Script) : Prop where
  answers : s.console.answers = (Stream.pieces t.console.unread).map Stream.answer
  calls : s.calls = t.calls
  failing : t.console.failure = failure
  redrawing : t.console.redraw = redraw
  screen : failure = none → redraw = false → t.console.screen = writtenText t.calls

theorem Plays.start (stream : Bytes) :
    Plays failure redraw (Transcribed.start { unread := stream, redraw, failure })
      (Transcribed.start (Script.ofStream stream)) :=
  ⟨rfl, rfl, rfl, rfl, fun _ _ => rfl⟩

/-- A call that reads nothing is played if both get it and the screen takes what it
writes. -/
theorem Plays.call {t t' : Transcribed Terminal} {s s' : Transcribed Script}
    (plays : Plays failure redraw t s) (call : Call) (called : t'.calls = t.calls ++ [call])
    (called' : s'.calls = s.calls ++ [call])
    (answers : s'.console.answers = s.console.answers)
    (unread : t'.console.unread = t.console.unread)
    (kept : t'.console.failure = t.console.failure ∧ t'.console.redraw = t.console.redraw)
    (screen : t.console.failure = none → t.console.redraw = false →
      t'.console.screen = t.console.screen ++ call.written) : Plays failure redraw t' s' := by
  refine ⟨?_, ?_, kept.1.trans plays.failing, kept.2.trans plays.redrawing, ?_⟩
  · rw [answers, unread]
    exact plays.answers
  · rw [called, called', plays.calls]
  · intro works plain
    have before := plays.screen works plain
    have after := screen (plays.failing.trans works) (plays.redrawing.trans plain)
    rw [after, before, called, writtenText_concat]

/-- The terminal reads the next answer of the script behind its prompt. -/
theorem Plays.ask {t : Transcribed Terminal} {s : Transcribed Script}
    (plays : Plays failure redraw t s) :
    (Console.ask t).1 = (Console.ask s).1 ∧
      Plays failure redraw (Console.ask t).2 (Console.ask s).2 := by
  obtain ⟨answer, rest⟩ := t.console.invite.readLine_eq_answer
  obtain ⟨answer', rest'⟩ := s.console.take_eq
  obtain ⟨readFailure, readRedraw, readScreen⟩ := t.console.invite.readLine_keeps
  obtain ⟨inviteFailure, inviteRedraw⟩ := t.console.invite_keeps
  rw [t.console.unread_invite] at answer rest
  rw [← plays.answers] at answer
  have same : (Console.ask t).1 = (Console.ask s).1 := answer.trans answer'.symm
  refine ⟨same, ?_, ?_, ?_, ?_, ?_⟩
  · change s.console.take.2.answers = (Stream.pieces t.console.ask.2.unread).map Stream.answer
    rw [rest', Terminal.ask, rest, plays.answers, List.map_tail]
  · change s.calls ++ [.read (Console.ask s).1] = t.calls ++ [.read (Console.ask t).1]
    rw [same, plays.calls]
  · exact (readFailure.trans inviteFailure).trans plays.failing
  · exact (readRedraw.trans inviteRedraw).trans plays.redrawing
  · intro works plain
    have invited := screen_invite (plays.failing.trans works) (Console.ask t).1
    change t.console.ask.2.screen = writtenText (t.calls ++ [.read (Console.ask t).1])
    rw [Terminal.ask, readScreen, invited, plays.screen works plain, writtenText_concat]

/-- Whatever is done with the terminal is done with the script. -/
theorem plays_simulates (failure : Option String) (redraw : Bool) :
    Console.Simulates (Plays failure redraw) where
  display {t s} plays text := by
    refine plays.call (.shown text) rfl rfl rfl (t.console.unread_display text)
      (t.console.display_keeps text) ?_
    intro works plain
    exact screen_display works plain text
  pause {t s} plays delay := by
    refine plays.call (.paused delay) rfl rfl rfl rfl ⟨rfl, rfl⟩ ?_
    intro _ _
    exact String.append_empty.symm
  note {t s} plays record := by
    refine plays.call (.noted record) rfl rfl rfl rfl ⟨rfl, rfl⟩ ?_
    intro _ _
    exact String.append_empty.symm
  ask := Plays.ask

end Terminal

/-- A session on a terminal comes to what the session on the script of its stream comes
to, with the same calls in the same order, whether or not the terminal redraws and its
screen works.  A plain screen that works then holds each text that was shown, with a line
feed at its end, and the prompt of each line that was asked for. -/
theorem runSession_terminal (program : Program) (input : List Value) (settings : Settings)
    (stream : Bytes) :
    let script := Script.ofStream stream
    let calls := (runSession program input settings (Transcribed.start script)).2.calls
    (∀ (redraw : Bool) (failure : Option String),
      let terminal : Terminal := { unread := stream, redraw, failure }
      (runSession program input settings terminal).1 =
          (runSession program input settings script).1 ∧
        (runSession program input settings (Transcribed.start terminal)).2.calls = calls) ∧
      (runSession program input settings ({ unread := stream } : Terminal)).2.screen =
        writtenText calls := by
  intro script calls
  have played (failure : Option String) (redraw : Bool) :=
    runSession_agree (Terminal.plays_simulates failure redraw) (Terminal.Plays.start stream)
      program input settings
  have transcribed {σ : Type} [Console σ] (s : σ) :=
    runSession_agree Transcribed.simulates (show (Transcribed.start s).console = s from rfl)
      program input settings
  constructor
  · intro redraw failure terminal
    obtain ⟨result, plays⟩ := played failure redraw
    refine ⟨?_, plays.calls.symm⟩
    exact ((transcribed terminal).1.trans result).trans (transcribed script).1.symm
  · obtain ⟨-, plays⟩ := played none false
    have screen := plays.screen rfl rfl
    rw [(transcribed ({ unread := stream } : Terminal)).2, ← plays.calls] at screen
    exact screen

end RegisterMachine
