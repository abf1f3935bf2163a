import RegisterMachine.Proofs.Debug.Screen
import RegisterMachine.Proofs.Debug.Terminal

/-!
# Redrawing

A terminal that redraws moves the cursor up over the text before and erases it.  On a screen
that takes what it writes, each text therefore takes the place of the one before it, and nothing
else is erased.

* `Drawn start kept last t s`: since the screen was `start`, the rows `kept` have been written for
  good and the rows `last` are those of the text that the terminal may erase.
* `Drawn.shown`, `Drawn.typed`: what showing a text and typing a line make of this.
* `redraw_shows_last`: what stands on the screen after any texts, and after any dialogue.
-/

namespace RegisterMachine

open Text (rowsOf stacked)

/-- The text holds no control character but line feeds. -/
def Text.Plain (text : String) : Prop :=
  ∀ c ∈ text.toList, c = '\n' ∨ isControl c = false

/-- The rows from the cursor's row on have become these, the rows above it have stayed, and the
cursor has come to the start of the row below. -/
structure Screen.Shows (before : Screen) (rows : List String) (after : Screen) : Prop where
  above : ∀ i, i < before.row → ∀ j, after.cell i j = before.cell i j
  below : ∀ i j, after.cell (before.row + i) j = (rows[i]?).bind fun row => row.toList[j]?
  row : after.row = before.row + rows.length
  column : after.column = 0

theorem Screen.shows_lay (s : Screen) (rows : List String) : s.Shows rows (s.lay rows) where
  above _ above j := s.lay_above rows above j
  below i j := by rw [s.lay_from rows (Nat.le_add_right _ _), Nat.add_sub_cancel_left]
  row := rfl
  column := rfl

/-! ## Dialogues -/

/-- What happens at a terminal: a text is shown, or a line is asked for and typed. -/
inductive Turn where
  | shown (text : String)
  | typed (line : String)
  deriving DecidableEq, Repr

namespace Turn

/-- The terminal after a turn. -/
def next (t : Terminal) : Turn → Terminal
  | shown text => t.display text
  | typed _ => t.ask.2

/-- What the operator's keys put on the screen. -/
def echo : Turn → String
  | shown _ => ""
  | typed line => line ++ "\n"

/-- What a turn puts on the screen: what the terminal has written, and the echo. -/
def arriving (t : Terminal) (turn : Turn) : String :=
  String.ofList ((turn.next t).screen.toList.drop t.screen.toList.length) ++ turn.echo

/-- A text holds no control character but line feeds, a line none at all. -/
def Plain : Turn → Prop
  | shown text => Text.Plain text
  | typed line => ∀ c ∈ line.toList, Text.isControl c = false

/-- The rows that stay and those of the last text, after a turn.  A line that is typed stays
behind its prompt, and so does the text above it. -/
def settle : List String × List String → Turn → List String × List String
  | (kept, _), shown text => (kept, rowsOf text)
  | (kept, last), typed line => (kept ++ last ++ ["> " ++ line], [])

/-- What stands on the screen after turns. -/
def standing (turns : List Turn) : List String :=
  let (kept, last) := turns.foldl settle ([], [])
  kept ++ last

/-- The terminal and the screen after turns. -/
def played (t : Terminal) (s : Screen) : List Turn → Terminal × Screen
  | [] => (t, s)
  | turn :: turns => played (turn.next t) (s.receive (Text.encode (turn.arriving t))) turns

theorem arriving_of_written {t : Terminal} (turn : Turn) {written : String}
    (screen : (turn.next t).screen = t.screen ++ written) :
    turn.arriving t = written ++ turn.echo := by
  rw [arriving, screen, String.toList_append, List.drop_left, String.ofList_toList]

end Turn

namespace Terminal

/-- Nothing was shown since the terminal was made, or since a line was asked for. -/
inductive Begins : Terminal → Prop
  | fresh (unread : Text.Bytes) : Begins { unread, redraw := true }
  | asked (t : Terminal) : Begins t.ask.2

theorem drawnRows_ask (t : Terminal) : t.ask.2.drawnRows = 0 := by
  have invited : t.invite.drawnRows = 0 := by
    unfold invite
    split <;> rfl
  rw [ask, ← invited]
  unfold readLine
  split
  · rfl
  · simp only
    split <;> rfl

theorem Begins.drawnRows {t : Terminal} (begins : t.Begins) : t.drawnRows = 0 := by
  cases begins with
  | fresh unread => rfl
  | asked t => exact t.drawnRows_ask

/-! ## What turns write -/

theorem terminated_eq_stacked (text : String) : terminated text = stacked (rowsOf text) :=
  (Text.stacked_rowsOf text).symm

theorem rows_terminated (text : String) : rows (terminated text) = (rowsOf text).length := by
  rw [rows, terminated_eq_stacked]
  exact Text.count_stacked fun row among feed => (Text.mem_of_mem_rowsOf among feed).2 rfl

theorem display_of_works {t : Terminal} (works : t.failure = none) (text : String) :
    (t.display text).screen = t.screen ++ (t.erasure ++ stacked (rowsOf text)) ∧
      (t.display text).drawnRows = (rowsOf text).length := by
  simp only [display, works, ← terminated_eq_stacked, rows_terminated, String.append_assoc, and_self]

theorem ask_of_works {t : Terminal} (works : t.failure = none) :
    t.ask.2.screen = t.screen ++ "> " := by
  rw [ask, t.invite.readLine_keeps.2.2]
  simp only [invite, works, prompt]

theorem ask_keeps (t : Terminal) :
    t.ask.2.failure = t.failure ∧ t.ask.2.redraw = t.redraw := by
  obtain ⟨failure, redraw, -⟩ := t.invite.readLine_keeps
  exact ⟨failure.trans t.invite_keeps.1, redraw.trans t.invite_keeps.2⟩

/-! ## What stands on the screen -/

/-- The terminal redraws and works.  Below what was there at the start stand the rows that stay
and then those of the last text, which are the ones that the terminal will erase. -/
structure Drawn (start : Screen) (kept last : List String) (t : Terminal) (s : Screen) : Prop where
  redraws : t.redraw = true
  works : t.failure = none
  drawnRows : t.drawnRows = last.length
  screen : s = start.lay (kept ++ last)

variable {start s : Screen} {kept last : List String} {t : Terminal}

theorem Begins.drawn (begins : t.Begins) (redraws : t.redraw = true) (works : t.failure = none)
    (clear : s.Clear) : Drawn s [] [] t s :=
  ⟨redraws, works, begins.drawnRows, (Screen.lay_nil clear).symm⟩

/-- Erasing leaves the rows that stay. -/
theorem Drawn.take_erasure (drawn : Drawn start kept last t s) :
    s.take t.erasure.toList = start.lay kept := by
  have below : s = (start.lay kept).lay last := by rw [drawn.screen, Screen.lay_lay]
  rw [erasure, drawn.redraws, drawn.drawnRows, Bool.true_and, below]
  by_cases some : 0 < last.length
  · rw [if_pos (by simpa using some)]
    exact Screen.take_erasure (start.clear_lay kept) some
  · have none : last = [] := List.length_eq_zero_iff.mp (by omega)
    subst none
    exact Screen.lay_nil (start.clear_lay kept)

/-- A text takes the place of the one before it. -/
theorem Drawn.shown (drawn : Drawn start kept last t s) {text : String} (plain : Text.Plain text) :
    ∃ written, (t.display text).screen = t.screen ++ written ∧
      Drawn start kept (rowsOf text) (t.display text) (s.take written.toList) := by
  obtain ⟨screen, rows⟩ := display_of_works drawn.works text
  obtain ⟨failure, redraw⟩ := t.display_keeps text
  refine ⟨_, screen, redraw.trans drawn.redraws, failure.trans drawn.works, rows, ?_⟩
  have plainRows : ∀ row ∈ rowsOf text, ∀ c ∈ row.toList, Text.isControl c = false := by
    intro row among c member
    obtain ⟨inside, noFeed⟩ := Text.mem_of_mem_rowsOf among member
    exact (plain c inside).resolve_left noFeed
  rw [String.toList_append, Screen.take_append, drawn.take_erasure,
    Screen.take_stacked (start.clear_lay kept) plainRows, Screen.lay_lay]

/-- A line that is typed stays behind its prompt, below what was shown before. -/
theorem Drawn.typed (drawn : Drawn start kept last t s) {line : String}
    (plain : ∀ c ∈ line.toList, Text.isControl c = false) :
    Drawn start (kept ++ last ++ ["> " ++ line]) [] t.ask.2
      (s.take ("> " ++ (line ++ "\n")).toList) := by
  obtain ⟨failure, redraw⟩ := t.ask_keeps
  refine ⟨redraw.trans drawn.redraws, failure.trans drawn.works, t.drawnRows_ask, ?_⟩
  have plainRow : ∀ c ∈ ("> " ++ line).toList, Text.isControl c = false := by
    intro c member
    rw [String.toList_append, List.mem_append] at member
    rcases member with sign | inside
    · have prompt : c = '>' ∨ c = ' ' := by simpa using sign
      rcases prompt with rfl | rfl <;> decide
    · exact plain c inside
  rw [← String.append_assoc, drawn.screen, Screen.take_row (start.clear_lay _) plainRow,
    Screen.lay_lay, List.append_nil]

/-- Of texts one after the other only the last one stands. -/
theorem Drawn.texts (drawn : Drawn start kept last t s) {texts : List String}
    (plain : ∀ text ∈ texts, Text.Plain text) :
    ∃ written last', (texts.foldl display t).screen = t.screen ++ written ∧
      Drawn start kept last' (texts.foldl display t) (s.take written.toList) := by
  induction texts generalizing t s last with
  | nil => exact ⟨"", last, String.append_empty.symm, drawn⟩
  | cons text texts ih =>
    obtain ⟨first, others⟩ := List.forall_mem_cons.mp plain
    obtain ⟨written, screen, shown⟩ := drawn.shown first
    obtain ⟨more, last', screen', drawn'⟩ := ih shown others
    refine ⟨written ++ more, last', ?_, ?_⟩
    · rw [List.foldl_cons, screen', screen, String.append_assoc]
    · rw [String.toList_append, Screen.take_append]
      exact drawn'

/-- What one turn makes of what stands. -/
theorem Drawn.turn (drawn : Drawn start kept last t s) {turn : Turn} (plain : turn.Plain) :
    Drawn start (turn.settle (kept, last)).1 (turn.settle (kept, last)).2 (turn.next t)
      (s.receive (Text.encode (turn.arriving t))) := by
  rw [Screen.receive_encode]
  cases turn with
  | shown text =>
    obtain ⟨written, screen, shown⟩ := drawn.shown plain
    rw [Turn.arriving_of_written (.shown text) screen, Turn.echo, String.append_empty]
    exact shown
  | typed line =>
    rw [Turn.arriving_of_written (.typed line) (ask_of_works drawn.works)]
    exact drawn.typed plain

theorem Drawn.turns (drawn : Drawn start kept last t s) {turns : List Turn}
    (plain : ∀ turn ∈ turns, turn.Plain) :
    let settled := turns.foldl Turn.settle (kept, last)
    let after := Turn.played t s turns
    Drawn start settled.1 settled.2 after.1 after.2 := by
  induction turns generalizing t s kept last with
  | nil => exact drawn
  | cons turn turns ih =>
    obtain ⟨first, others⟩ := List.forall_mem_cons.mp plain
    exact ih (drawn.turn first) others

end Terminal

/-- On a clear screen, of texts that are shown one after the other only the last one stands: its
rows from the cursor's row on, and the rows above as they were.  In a dialogue what was typed
stays, with its prompt and with the text above it.  On a screen that is not clear this fails, see
`redraw_on_used_screen`. -/
theorem redraw_shows_last (t : Terminal) (s : Screen) (begins : t.Begins)
    (redraws : t.redraw = true) (works : t.failure = none) (clear : s.Clear) :
    (∀ (texts : List String) (last : String), (∀ text ∈ texts ++ [last], Text.Plain text) →
      ∃ written, ((texts ++ [last]).foldl Terminal.display t).screen = t.screen ++ written ∧
        s.Shows (rowsOf last) (s.receive (Text.encode written))) ∧
    ∀ turns : List Turn, (∀ turn ∈ turns, turn.Plain) →
      s.Shows (Turn.standing turns) (Turn.played t s turns).2 := by
  have drawn := begins.drawn redraws works clear
  constructor
  · intro texts last plain
    obtain ⟨before, final⟩ := List.forall_mem_append.mp plain
    obtain ⟨written, last', screen, shown⟩ := drawn.texts before
    obtain ⟨more, screen', shown'⟩ := shown.shown (final last List.mem_cons_self)
    refine ⟨written ++ more, ?_, ?_⟩
    · rw [List.foldl_append, List.foldl_cons, List.foldl_nil, screen', screen, String.append_assoc]
    · rw [Screen.receive_encode, String.toList_append, Screen.take_append, shown'.screen]
      exact s.shows_lay (rowsOf last)
  · intro turns plain
    rw [(drawn.turns plain).screen]
    exact s.shows_lay _

/-- Texts of different heights, an empty one among them, below a line that was typed; and a
dialogue on a fresh terminal. -/
theorem redraw_shows_last_heights :
    let asked := ({ unread := Text.encode "x\n", redraw := true } : Terminal).ask.2
    let typed : Screen := ⟨fun i j => if i = 0 then "> x".toList[j]? else none, 1, 0, .text⟩
    let texts := ["a\nbc\n\n", "", "d\ne"]
    let fresh : Terminal := { unread := [], redraw := true }
    let turns := [.shown "a\nb", .shown "c", .typed "states", .shown "", .shown "d\n\n"]
    (texts.foldl Terminal.display asked).screen =
        "> " ++ "a\nbc\n\n\x1b[3A\x1b[J\n\x1b[1A\x1b[Jd\ne\n" ∧
      (∃ written, (texts.foldl Terminal.display asked).screen = "> " ++ written ∧
        typed.Shows ["d", "e"] (typed.receive (Text.encode written))) ∧
      typed.Shows ["c", "> states", "d", ""] (Turn.played fresh typed turns).2 := by
  intro asked typed texts fresh turns
  have clear : typed.Clear := by
    refine ⟨rfl, rfl, fun i below j => if_neg ?_⟩
    have : 1 ≤ i := below
    omega
  have plain {text : String} (all : text.toList.all fun c => c = '\n' || !Text.isControl c) :
      Text.Plain text := by
    simpa [Text.Plain] using all
  have plainTexts : ∀ text ∈ texts, Text.Plain text := by
    simp only [texts, List.forall_mem_cons]
    exact ⟨plain (by decide +kernel), plain (by decide +kernel), plain (by decide +kernel), by simp⟩
  have plainTurns : ∀ turn ∈ turns, turn.Plain := by
    have letters : ∀ c ∈ "states".toList, Text.isControl c = false := by
      have all : "states".toList.all (!Text.isControl ·) := by decide +kernel
      simpa using all
    simp only [turns, List.forall_mem_cons]
    exact ⟨plain (by decide +kernel), plain (by decide +kernel), letters, plain (by decide +kernel),
      plain (by decide +kernel), by simp⟩
  have shown := (redraw_shows_last asked typed (.asked _) (by decide +kernel) (by decide +kernel)
    clear).1 ["a\nbc\n\n", ""] "d\ne" plainTexts
  have dialogue := (redraw_shows_last fresh typed (.fresh _) rfl rfl clear).2 turns plainTurns
  refine ⟨by decide +kernel, ?_, ?_⟩
  · have screen : asked.screen = "> " := by decide +kernel
    have rows : rowsOf "d\ne" = ["d", "e"] := by decide +kernel
    rwa [screen, rows] at shown
  · have rows : Turn.standing turns = ["c", "> states", "d", ""] := by decide +kernel
    rwa [rows] at dialogue

/-- The screen has to be clear: the first text erases nothing, so on a screen that was used before
what stands behind the text and below it stays. -/
theorem redraw_on_used_screen :
    let fresh : Terminal := { unread := [], redraw := true }
    let used : Screen := ⟨fun i j => if i < 3 then "xyz".toList[j]? else none, 0, 0, .text⟩
    let after := used.receive (Text.encode (fresh.display "a").screen)
    fresh.Begins ∧ fresh.failure = none ∧ Text.Plain "a" ∧ ¬ used.Clear ∧
      (List.range 3).map (after.cell 0) = [some 'a', some 'y', some 'z'] ∧
      (List.range 3).map (after.cell 2) = [some 'x', some 'y', some 'z'] ∧
      ¬ used.Shows (rowsOf "a") after := by
  intro fresh used after
  have behind : (List.range 3).map (after.cell 0) = [some 'a', some 'y', some 'z'] := by
    decide +kernel
  have below : (List.range 3).map (after.cell 2) = [some 'x', some 'y', some 'z'] := by
    decide +kernel
  have plain : Text.Plain "a" := by
    have all : "a".toList.all fun c => c = '\n' || !Text.isControl c := by decide +kernel
    simpa [Text.Plain] using all
  refine ⟨.fresh [], rfl, plain, fun clear => ?_, behind, below, fun shows => ?_⟩
  · cases clear.blank 0 (Nat.le_refl 0) 0
  · have remnant : after.cell 2 0 = some 'x' := by decide +kernel
    have rows : (rowsOf "a")[2]? = none := by decide +kernel
    have cursor : used.row + 2 = 2 := rfl
    have blank := shows.below 2 0
    rw [cursor, remnant, rows] at blank
    cases blank

end RegisterMachine
