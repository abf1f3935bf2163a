import RegisterMachine.Proofs.Text.Pieces

/-!
# Texts of lines

`Written lines text` says how lines can be put into one text: each with a line feed behind
it, alone or after a carriage return, and the last line also without.  Cutting the text
gives lines with the same words back (`Written.words_lines`).  The lines themselves may come
back shorter, since a carriage return at the end of a line counts as part of the line end.
-/

namespace RegisterMachine.Text

/-- What ends a line. -/
inductive LineEnd where
  | lf
  | crlf
  deriving DecidableEq, Repr

/-- The characters of a line end. -/
def LineEnd.text : LineEnd → String
  | lf => "\n"
  | crlf => "\r\n"

/-- The text holds the lines one after the other.  A last line that is not empty needs no
line end. -/
inductive Written : List String → String → Prop
  | nil : Written [] ""
  | last {line : String} (nonempty : line ≠ "") : Written [line] line
  | cons {line text : String} {lines : List String} (ending : LineEnd)
    (more : Written lines text) : Written (line :: lines) (line ++ ending.text ++ text)

/-! ## Cutting -/

theorem cutLines_cons {c : Char} {cs : List Char} (inside : c ≠ '\n')
    (lone : c = '\r' → cs.head? ≠ some '\n') :
    cutLines (c :: cs) = match cutLines cs with
      | [] => [[c]]
      | line :: rest => (c :: line) :: rest := by
  rw [cutLines.eq_def]
  split
  · rename_i none
    cases none
  · rename_i feed
    cases feed
    exact absurd rfl inside
  · rename_i feed
    cases feed
    exact absurd rfl (lone rfl)
  · rename_i same
    cases same
    rfl

/-- A line feed ends the line in front of it, and a carriage return before it goes with it. -/
theorem cutLines_lineFeed {line : List Char} (plain : '\n' ∉ line) (rest : List Char) :
    ∃ line', cutLines (line ++ '\n' :: rest) = line' :: cutLines rest ∧
      (line = line' ∨ line = line' ++ ['\r']) := by
  induction line with
  | nil => exact ⟨[], by simp [cutLines], .inl rfl⟩
  | cons c line ih =>
    obtain ⟨inside, plain⟩ := not_or.mp (mt List.mem_cons.mpr plain)
    by_cases ends : c = '\r' ∧ line = []
    · obtain ⟨rfl, rfl⟩ := ends
      exact ⟨[], by simp [cutLines], .inr rfl⟩
    · obtain ⟨line', cut, same⟩ := ih plain
      refine ⟨c :: line', ?_, ?_⟩
      · rw [List.cons_append, cutLines_cons (Ne.symm inside), cut]
        intro isReturn
        cases line with
        | nil => exact absurd ⟨isReturn, rfl⟩ ends
        | cons x line =>
          intro head
          cases head
          exact plain List.mem_cons_self
      · exact same.imp (congrArg (c :: ·)) (congrArg (c :: ·))

theorem cutLines_last {line : List Char} (plain : '\n' ∉ line) (nonempty : line ≠ []) :
    cutLines line = [line] := by
  induction line with
  | nil => exact absurd rfl nonempty
  | cons c line ih =>
    obtain ⟨inside, plain⟩ := not_or.mp (mt List.mem_cons.mpr plain)
    have lone : c = '\r' → line.head? ≠ some '\n' :=
      fun _ head => plain (List.mem_of_mem_head? head)
    rw [cutLines_cons (Ne.symm inside) lone]
    cases line with
    | nil => rfl
    | cons x line => rw [ih plain (by simp)]

/-! ## Written texts -/

theorem words_lines_lineFeed {line : List Char} (plain : '\n' ∉ line) (rest : List Char) :
    (lines (String.ofList (line ++ '\n' :: rest))).map words =
      words (String.ofList line) :: (lines (String.ofList rest)).map words := by
  obtain ⟨line', cut, same⟩ := cutLines_lineFeed plain rest
  have sameWords : words (String.ofList line) = words (String.ofList line') := by
    rcases same with rfl | rfl
    · rfl
    · exact words_append_blank (by decide) line'
  simp [lines, cut, sameWords]

theorem Written.words_lines {ls : List String} {text : String} (written : Written ls text)
    (plain : ∀ line ∈ ls, '\n' ∉ line.toList) : (lines text).map words = ls.map words := by
  induction written with
  | nil => simp [lines, cutLines]
  | @last line nonempty =>
    have cut := cutLines_last (plain line List.mem_cons_self) (by simpa using nonempty)
    simp [lines, cut]
  | @cons line text ls ending more ih =>
    obtain ⟨plain, others⟩ := List.forall_mem_cons.mp plain
    rw [List.map_cons, ← ih others]
    cases ending with
    | lf =>
      have shape : line ++ LineEnd.lf.text ++ text =
          String.ofList (line.toList ++ '\n' :: text.toList) := by
        simp [LineEnd.text, String.ext_iff]
      rw [shape, words_lines_lineFeed plain, String.ofList_toList, String.ofList_toList]
    | crlf =>
      have shape : line ++ LineEnd.crlf.text ++ text =
          String.ofList ((line.toList ++ ['\r']) ++ '\n' :: text.toList) := by
        simp [LineEnd.text, String.ext_iff]
      have plain : '\n' ∉ line.toList ++ ['\r'] := by simpa using plain
      rw [shape, words_lines_lineFeed plain, words_append_blank (by decide),
        String.ofList_toList, String.ofList_toList]

end RegisterMachine.Text
