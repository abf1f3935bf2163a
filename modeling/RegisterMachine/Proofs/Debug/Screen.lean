import RegisterMachine.Proofs.Text.Decimal
import RegisterMachine.Proofs.Text.Encoding
import RegisterMachine.Proofs.Text.Rows

/-!
# Screens

A screen without limits: cells in rows and columns, and a cursor.  It takes bytes and
understands line feeds, the sequence that moves the cursor up and the one that erases what
stands from the cursor on.

* `Screen.receive`: what bytes do to a screen.
* `Screen.Clear`: the cursor stands at the start of a row, and nothing from there on.
* `Screen.lay s rows`: the screen with rows laid down from the cursor's row on.
  `take_stacked`: rows that are written are laid down; `take_erasure`: moving up over them and
  erasing takes them away; `lay_lay`: rows are laid down below rows.
-/

namespace RegisterMachine

/-- Whether a character is a control character: Unicode's category Cc. -/
def Text.isControl (c : Char) : Bool :=
  c.toNat < 0x20 || (0x7F ≤ c.toNat && c.toNat ≤ 0x9F)

/-- Where a screen stands in a control sequence. -/
inductive ScreenMode where
  | text
  | escape
  | parameter (digits : List Char)
  deriving DecidableEq, Repr

/-- What stands in each cell, by row and column, and the cursor. -/
structure Screen where
  cell : Nat → Nat → Option Char
  row : Nat
  column : Nat
  mode : ScreenMode

namespace Screen

/-! ## What a screen does -/

/-- Puts a character under the cursor and moves on. -/
def put (s : Screen) (c : Char) : Screen :=
  { s with
    cell := fun i j => if i = s.row ∧ j = s.column then some c else s.cell i j
    column := s.column + 1 }

/-- Goes to the start of the next row. -/
def feed (s : Screen) : Screen := { s with row := s.row + 1, column := 0 }

/-- Moves the cursor up, at most to the first row. -/
def up (s : Screen) (n : Nat) : Screen := { s with row := s.row - n }

/-- Erases the rest of the cursor's row and all rows below it. -/
def eraseBelow (s : Screen) : Screen :=
  { s with
    cell := fun i j =>
      if s.row < i ∨ (i = s.row ∧ s.column ≤ j) then none else s.cell i j }

/-- Carries out a control sequence.  No parameter or a zero means one where rows are
counted.  Other sequences have no effect. -/
def control (s : Screen) (digits : List Char) (final : Char) : Screen :=
  let parameter := (Text.natural? digits).getD 0
  if final = 'A' then s.up (max parameter 1)
  else if final = 'J' ∧ parameter = 0 then s.eraseBelow
  else s

/-- Takes a character.  Control characters other than the line feed and the escape have no
effect. -/
def accept (s : Screen) (c : Char) : Screen :=
  match s.mode with
  | .text =>
    if c = '\n' then s.feed
    else if c = '\x1b' then { s with mode := .escape }
    else if Text.isControl c then s
    else s.put c
  | .escape => { s with mode := if c = '[' then .parameter [] else .text }
  | .parameter digits =>
    if c.isDigit then { s with mode := .parameter (digits ++ [c]) }
    else { s with mode := .text }.control digits c

/-- Takes characters one after the other. -/
def take (s : Screen) (cs : List Char) : Screen := cs.foldl accept s

/-- Takes bytes. -/
def receive (s : Screen) (bytes : Text.Bytes) : Screen := s.take (Text.decodeLossy bytes).toList

theorem receive_encode (s : Screen) (text : String) :
    s.receive (Text.encode text) = s.take text.toList := by
  rw [receive, Text.decodeLossy_encode]

theorem take_append (s : Screen) (cs ds : List Char) :
    s.take (cs ++ ds) = (s.take cs).take ds :=
  List.foldl_append

/-! ## Rows laid down -/

/-- The cursor stands at the start of a row, and nothing stands there or below. -/
structure Clear (s : Screen) : Prop where
  mode : s.mode = .text
  column : s.column = 0
  blank : ∀ i, s.row ≤ i → ∀ j, s.cell i j = none

/-- The rows from the cursor's row on are these, the rows above it stay, and the cursor stands at
the start of the row below. -/
def lay (s : Screen) (rows : List String) : Screen where
  cell i j := if i < s.row then s.cell i j else (rows[i - s.row]?).bind fun row => row.toList[j]?
  row := s.row + rows.length
  column := 0
  mode := .text

theorem ext {s s' : Screen} (cell : ∀ i j, s.cell i j = s'.cell i j) (row : s.row = s'.row)
    (column : s.column = s'.column) (mode : s.mode = s'.mode) : s = s' := by
  cases s
  cases s'
  obtain rfl := funext fun i => funext (cell i)
  cases row
  cases column
  cases mode
  rfl

theorem lay_above (s : Screen) (rows : List String) {i : Nat} (above : i < s.row) (j : Nat) :
    (s.lay rows).cell i j = s.cell i j :=
  if_pos above

theorem lay_from (s : Screen) (rows : List String) {i : Nat} (below : s.row ≤ i) (j : Nat) :
    (s.lay rows).cell i j = (rows[i - s.row]?).bind fun row => row.toList[j]? :=
  if_neg (Nat.not_lt.mpr below)

theorem lay_nil {s : Screen} (clear : s.Clear) : s.lay [] = s := by
  refine ext (fun i j => ?_) rfl clear.column.symm clear.mode.symm
  by_cases above : i < s.row
  · exact s.lay_above [] above j
  · rw [s.lay_from [] (by omega), clear.blank i (by omega)]
    rfl

theorem clear_lay (s : Screen) (rows : List String) : (s.lay rows).Clear := by
  refine ⟨rfl, rfl, fun i below j => ?_⟩
  have under : s.row + rows.length ≤ i := below
  rw [s.lay_from rows (by omega), List.getElem?_eq_none (by omega), Option.bind_none]

/-- Rows are laid down below rows. -/
theorem lay_lay (s : Screen) (rows rows' : List String) :
    (s.lay rows).lay rows' = s.lay (rows ++ rows') := by
  have height : (s.lay rows).row = s.row + rows.length := rfl
  refine ext (fun i j => ?_) (by simp [lay, Nat.add_assoc]) rfl rfl
  by_cases above : i < s.row
  · rw [lay_above _ _ (by omega), lay_above _ _ above, lay_above _ _ above]
  rw [s.lay_from (rows ++ rows') (by omega)]
  by_cases upper : i < s.row + rows.length
  · rw [lay_above _ _ (by omega), lay_from _ _ (by omega), List.getElem?_append_left (by omega)]
  · rw [lay_from _ _ (by omega), height, List.getElem?_append_right (by omega), Nat.sub_add_eq]

/-! ## What is written is laid down -/

theorem accept_plain {s : Screen} {c : Char} (mode : s.mode = .text)
    (plain : Text.isControl c = false) : s.accept c = s.put c := by
  have feed : c ≠ '\n' := by
    rintro rfl
    exact absurd plain (by decide)
  have escape : c ≠ '\x1b' := by
    rintro rfl
    exact absurd plain (by decide)
  simp [accept, mode, feed, escape, plain]

/-- Characters that are written go under the cursor and to its right. -/
theorem take_plain {s : Screen} {cs : List Char} (mode : s.mode = .text)
    (plain : ∀ c ∈ cs, Text.isControl c = false) :
    (s.take cs).mode = .text ∧ (s.take cs).row = s.row ∧
      ∀ i j, (s.take cs).cell i j =
        if i = s.row ∧ s.column ≤ j ∧ j < s.column + cs.length then cs[j - s.column]?
        else s.cell i j := by
  induction cs generalizing s with
  | nil =>
    refine ⟨mode, rfl, fun i j => (if_neg ?_).symm⟩
    simp only [List.length_nil]
    omega
  | cons c cs ih =>
    obtain ⟨first, others⟩ := List.forall_mem_cons.mp plain
    have taken : s.take (c :: cs) = (s.put c).take cs := by
      rw [← accept_plain mode first]
      rfl
    obtain ⟨text, row, cells⟩ := ih (s := s.put c) mode others
    rw [taken]
    refine ⟨text, row, fun i j => ?_⟩
    have put : (s.put c).cell i j = if i = s.row ∧ j = s.column then some c else s.cell i j := rfl
    have next : (s.put c).column = s.column + 1 := rfl
    have here : (s.put c).row = s.row := rfl
    rw [cells i j, put, next, here, List.length_cons]
    by_cases under : i = s.row ∧ j = s.column
    · obtain ⟨rfl, rfl⟩ := under
      rw [if_neg (by omega), if_pos ⟨rfl, rfl⟩, if_pos (by omega), Nat.sub_self]
      rfl
    · rw [if_neg under]
      by_cases right : i = s.row ∧ s.column + 1 ≤ j ∧ j < s.column + 1 + cs.length
      · rw [if_pos right, if_pos (by omega), show j - s.column = j - (s.column + 1) + 1 by omega]
        rfl
      · rw [if_neg right, if_neg (by omega)]

theorem take_row {s : Screen} (clear : s.Clear) {row : String}
    (plain : ∀ c ∈ row.toList, Text.isControl c = false) :
    s.take (row ++ "\n").toList = s.lay [row] := by
  obtain ⟨mode, height, cells⟩ := take_plain clear.mode plain
  have ended : s.take (row ++ "\n").toList = (s.take row.toList).feed := by
    rw [String.toList_append, take_append]
    change (s.take row.toList).accept '\n' = _
    simp only [accept, mode, if_true]
  rw [ended]
  refine ext (fun i j => ?_) (congrArg (· + 1) height) rfl mode
  change (s.take row.toList).cell i j = _
  rw [cells i j, clear.column]
  by_cases above : i < s.row
  · rw [if_neg (by omega), s.lay_above [row] above]
  rw [s.lay_from [row] (by omega)]
  by_cases here : i = s.row
  · rw [here, Nat.sub_self]
    by_cases within : j < row.toList.length
    · rw [if_pos (by omega)]
      rfl
    · rw [if_neg (by omega), clear.blank _ (Nat.le_refl _)]
      exact (List.getElem?_eq_none (by omega)).symm
  · rw [if_neg (by omega), clear.blank i (by omega), List.getElem?_eq_none (by simp; omega)]
    rfl

theorem take_stacked {s : Screen} (clear : s.Clear) {rows : List String}
    (plain : ∀ row ∈ rows, ∀ c ∈ row.toList, Text.isControl c = false) :
    s.take (Text.stacked rows).toList = s.lay rows := by
  induction rows generalizing s with
  | nil => exact (lay_nil clear).symm
  | cons row rows ih =>
    obtain ⟨first, others⟩ := List.forall_mem_cons.mp plain
    rw [Text.stacked_cons, String.toList_append, take_append, take_row clear first,
      ih (clear_lay s [row]) others, lay_lay]
    rfl

/-! ## What is erased -/

theorem take_digits {s : Screen} {digits cs : List Char} (mode : s.mode = .parameter digits)
    (all : ∀ c ∈ cs, c.isDigit) : s.take cs = { s with mode := .parameter (digits ++ cs) } := by
  induction cs generalizing s digits with
  | nil =>
    rw [List.append_nil, ← mode]
    rfl
  | cons c cs ih =>
    obtain ⟨first, others⟩ := List.forall_mem_cons.mp all
    have taken : s.accept c = { s with mode := .parameter (digits ++ [c]) } := by
      simp only [accept, mode, if_pos first]
    have rest := ih (s := s.accept c) (by rw [taken]) others
    rw [taken, List.append_assoc] at rest
    change (s.accept c).take cs = _
    rw [taken]
    exact rest

/-- A control sequence does what its last character says. -/
theorem take_sequence {s : Screen} (mode : s.mode = .text) {digits : List Char} {final : Char}
    (all : ∀ c ∈ digits, c.isDigit) (other : final.isDigit = false) :
    s.take ('\x1b' :: '[' :: (digits ++ [final])) = s.control digits final := by
  have opened : (s.accept '\x1b').accept '[' = { s with mode := .parameter [] } := by
    simp [accept, mode]
  have closed : ({ s with mode := .text } : Screen) = s := ext (fun _ _ => rfl) rfl rfl mode.symm
  change ((s.accept '\x1b').accept '[').take (digits ++ [final]) = _
  rw [opened, take_append, take_digits rfl all]
  simp [take, accept, other, closed]

/-- Moving up over rows that were laid down and erasing takes them away. -/
theorem take_erasure {s : Screen} (clear : s.Clear) {rows : List String} (drawn : 0 < rows.length) :
    (s.lay rows).take ("\x1b[" ++ toString rows.length ++ "A\x1b[J").toList = s := by
  have split : ("\x1b[" ++ toString rows.length ++ "A\x1b[J").toList =
      '\x1b' :: '[' :: (Nat.toDigits 10 rows.length ++ ['A']) ++ '\x1b' :: '[' :: ([] ++ ['J']) := by
    simp
  have up : (s.lay rows).control (Nat.toDigits 10 rows.length) 'A' = (s.lay rows).up rows.length := by
    simp only [control, Text.natural?_toDigits, Option.getD_some, if_true]
    rw [Nat.max_eq_left drawn]
  rw [split, take_append, take_sequence rfl fun c member =>
      Nat.isDigit_of_mem_toDigits (by decide) (by decide) member, up, take_sequence rfl (by simp)]
  · change ((s.lay rows).up rows.length).eraseBelow = s
    have back : ((s.lay rows).up rows.length).row = s.row := Nat.add_sub_cancel ..
    refine ext (fun i j => ?_) back clear.column.symm clear.mode.symm
    by_cases above : i < s.row
    · refine (if_neg ?_).trans (s.lay_above rows above j)
      omega
    · refine (if_pos ?_).trans (clear.blank i (by omega) j).symm
      have start : ((s.lay rows).up rows.length).column = 0 := rfl
      omega
  · decide
  · decide

end Screen

end RegisterMachine
