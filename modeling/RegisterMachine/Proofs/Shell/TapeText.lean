import RegisterMachine.Proofs.Shell.SilentRun
import RegisterMachine.Proofs.Text.Decimal
import RegisterMachine.Proofs.Text.Pieces

/-!
# Tapes as text

A tape is read token by token, so that what is read from a text is told by what is read from its
parts.

* `Tape.parse_append`: a text with a separator in it is read as its two sides are, the positions
  of the second counted on from the first.
* `Tape.parse_token`: a single token is a signed numeral, or is refused.
* `Tape.laidOut`: values in decimal with separators around them; `Tape.parse_laidOut`: they are
  read back, however they are laid out, and so is what a silent run prints
  (`Tape.parse_printed`).
-/

namespace RegisterMachine

open Text (Bytes Denotes Spaced pieces)

namespace Tape

/-! ## Tokens one after the other -/

theorem valuesFrom_add (position n : Nat) (tokens : List (List Char)) :
    valuesFrom (position + n) tokens =
      (valuesFrom position tokens).mapError fun e => { e with position := e.position + n } := by
  induction tokens generalizing position with
  | nil => rfl
  | cons token rest ih =>
    rw [valuesFrom, valuesFrom]
    cases Text.integer? token with
    | none => rfl
    | some v =>
      simp only [Nat.add_right_comm position n 1, ih]
      cases valuesFrom (position + 1) rest <;> rfl

theorem valuesFrom_append (position : Nat) (front back : List (List Char)) :
    valuesFrom position (front ++ back) =
      (valuesFrom position front).bind fun values =>
        (valuesFrom (position + values.length) back).map (values ++ ·) := by
  induction front generalizing position with
  | nil =>
    simp only [List.nil_append, valuesFrom, Except.bind, List.length_nil, Nat.add_zero]
    cases valuesFrom position back <;> rfl
  | cons token rest ih =>
    rw [List.cons_append, valuesFrom, valuesFrom]
    cases Text.integer? token with
    | none => rfl
    | some v =>
      simp only [ih]
      cases valuesFrom (position + 1) rest with
      | error e => rfl
      | ok values =>
        simp only [Except.map, Except.bind, List.length_cons, Nat.add_right_comm position 1,
          ← Nat.add_assoc]
        cases valuesFrom (position + values.length + 1) back <;> rfl

/-- The two sides of a separator are read one after the other. -/
theorem parse_append {c : Char} (separator : isSeparator c = true) (a b : String) :
    parse (a ++ String.singleton c ++ b) =
      (parse a).bind fun values =>
        ((parse b).mapError fun e => { e with position := e.position + values.length }).map
          (values ++ ·) := by
  have cut : pieces isSeparator (a ++ String.singleton c ++ b).toList =
      pieces isSeparator a.toList ++ pieces isSeparator b.toList := by
    simp only [String.toList_append, String.toList_singleton, List.append_assoc,
      List.singleton_append]
    exact Text.pieces_append_separator separator _ _
  simp only [parse, cut, valuesFrom_append, valuesFrom_add]

/-! ## Single tokens -/

theorem parse_of_solid {t : String} (nonempty : t ≠ "")
    (solid : ∀ c ∈ t.toList, isSeparator c = false) :
    parse t = (Text.integer? t.toList).elim (.error ⟨1, t⟩) fun v => .ok [v] := by
  have cut := Text.pieces_of_solid (p := isSeparator) (by simpa using nonempty) solid
  rw [parse, cut, valuesFrom, String.ofList_toList]
  cases Text.integer? t.toList <;> rfl

/-- A token is a signed numeral, or is refused at the first position. -/
theorem parse_token {t : String} (nonempty : t ≠ "")
    (solid : ∀ c ∈ t.toList, isSeparator c = false) :
    (∀ v, parse t = .ok [v] ↔ Denotes t.toList v) ∧
      ((∀ v, ¬ Denotes t.toList v) → parse t = .error ⟨1, t⟩) := by
  rw [parse_of_solid nonempty solid]
  simp only [← Text.integer?_eq_some_iff]
  cases Text.integer? t.toList with
  | none => simp
  | some v => simp

/-! ## Layouts -/

/-- Values in decimal, each with the text behind it, and a text in front of the first. -/
def laidOut (lead : String) (items : List (Value × String)) : String :=
  lead ++ String.join (items.map fun item => Value.text item.1 ++ item.2)

/-- A text of separators. -/
def IsGap (s : String) : Prop := ∀ c ∈ s.toList, isSeparator c = true

theorem not_separator_of_mem_text {v : Value} {c : Char} (member : c ∈ (Value.text v).toList) :
    isSeparator c = false := by
  rcases Text.sign_or_digit_of_mem_text member with rfl | digit
  · decide
  · have comma : c ≠ ',' := by
      rintro rfl
      exact absurd digit (by decide)
    simp [isSeparator, comma, Text.isBlank_of_isDigit digit]

/-- Gaps that are not empty keep the values apart. -/
theorem spaced_items {items : List (Value × String)} (gaps : ∀ item ∈ items, IsGap item.2)
    (apart : ∀ item ∈ items.dropLast, item.2 ≠ "") :
    Spaced isSeparator (items.map fun item => (Value.text item.1).toList)
      (items.flatMap fun item => (Value.text item.1).toList ++ item.2.toList) := by
  induction items with
  | nil => exact .nil (by simp)
  | cons item items ih =>
    obtain ⟨gap, gaps⟩ := List.forall_mem_cons.mp gaps
    have nonempty : (Value.text item.1).toList ≠ [] := by simp [Text.toList_text]
    rw [List.map_cons, List.flatMap_cons, List.append_assoc]
    refine .piece nonempty (fun _ => not_separator_of_mem_text) ?_
      (.append_separators gap (ih gaps ?_))
    · intro c head
      rcases shape : item.2.toList with _ | ⟨d, rest⟩
      · -- Only the last value may stand without a gap behind it.
        rcases items with _ | ⟨next, items⟩
        · simp [shape] at head
        · have behind := apart item (by simp)
          exact absurd (by simpa using shape) behind
      · have same : d = c := by simpa [shape] using head
        exact gap c (by simp [shape, same])
    · intro other among
      rcases items with _ | ⟨next, items⟩
      · cases among
      · exact apart other (by simpa using Or.inr among)

/-- Values are read back from any layout. -/
theorem parse_laidOut {lead : String} {items : List (Value × String)} (front : IsGap lead)
    (gaps : ∀ item ∈ items, IsGap item.2) (apart : ∀ item ∈ items.dropLast, item.2 ≠ "") :
    parse (laidOut lead items) = .ok (items.map Prod.fst) := by
  have shape : (laidOut lead items).toList = lead.toList ++
      items.flatMap fun item => (Value.text item.1).toList ++ item.2.toList := by
    simp [laidOut, String.toList_join, List.flatMap_map]
  have cut : pieces isSeparator (laidOut lead items).toList =
      items.map fun item => (Value.text item.1).toList := by
    rw [shape]
    exact ((spaced_items gaps apart).append_separators front).pieces_eq
  have read (position : Nat) (items : List (Value × String)) :
      valuesFrom position (items.map fun item => (Value.text item.1).toList) =
        .ok (items.map Prod.fst) := by
    induction items generalizing position with
    | nil => rfl
    | cons item items ih =>
      rw [List.map_cons, valuesFrom, Text.integer?_eq_some_iff.mpr (Text.denotes_text item.1)]
      simp only [ih, Except.map, List.map_cons]
  rw [parse, cut, read]

theorem rows_eq_laidOut (values : List Value) :
    rows values = laidOut "" (values.map fun v => (v, "\n")) := by
  simp [rows, laidOut, Function.comp_def]

theorem parse_rows (values : List Value) : parse (rows values) = .ok values := by
  have feed : IsGap "\n" := by
    intro c among
    have only : c = '\n' := by simpa using among
    rw [only]
    decide
  rw [rows_eq_laidOut, parse_laidOut (by simp [IsGap])]
  · simp [Function.comp_def]
  · intro item among
    obtain ⟨v, -, rfl⟩ := List.mem_map.mp among
    exact feed
  · intro item among
    obtain ⟨v, -, rfl⟩ := List.mem_map.mp (List.dropLast_subset _ among)
    simp

/-- What a silent run prints when it succeeds can be read as a tape, and holds the output. -/
theorem parse_printed {host : Host} {r : RunRequest} {stdin : Bytes} (silent : r.Silent host)
    (success : (r.execute host stdin).code = 0) :
    ∃ report, r.Succeeds host report ∧
      parse (r.execute host stdin).stdout = .ok report.output.toList := by
  rcases r.succeeds_or_fails host with ⟨report, succeeds⟩ | ⟨e, fails⟩
  · obtain ⟨log, exit⟩ := RunRequest.execute_of_succeeds silent succeeds stdin
    refine ⟨report, succeeds, ?_⟩
    rw [exit]
    exact parse_rows report.output.toList
  · obtain ⟨log, exit⟩ := RunRequest.execute_of_fails silent fails stdin
    rw [exit] at success
    cases success

/-- A tape is read token by token.  The two sides of a separator are read one after the other,
and the first error is that of the whole, at the position of its token in it.  A token is a
signed numeral, or is refused.  So values in decimal are read back from any layout, and from what
a silent run prints. -/
theorem parse_by_tokens :
    (∀ (a b : String) (c : Char), isSeparator c = true →
      parse (a ++ String.singleton c ++ b) =
        (parse a).bind fun values =>
          ((parse b).mapError fun e => { e with position := e.position + values.length }).map
            (values ++ ·)) ∧
    (∀ t : String, t ≠ "" → (∀ c ∈ t.toList, isSeparator c = false) →
      (∀ v, parse t = .ok [v] ↔ Denotes t.toList v) ∧
        ((∀ v, ¬ Denotes t.toList v) → parse t = .error ⟨1, t⟩)) ∧
    (∀ (lead : String) (items : List (Value × String)), IsGap lead →
      (∀ item ∈ items, IsGap item.2) → (∀ item ∈ items.dropLast, item.2 ≠ "") →
      parse (laidOut lead items) = .ok (items.map Prod.fst)) ∧
    ∀ (host : Host) (stdin : Bytes) (args : List Bytes) (r : RunRequest),
      Request.ofArguments args = .ok (.run r) → r.Silent host →
      (simulate host stdin args).code = 0 →
      ∃ report, r.Succeeds host report ∧
        parse (simulate host stdin args).stdout = .ok report.output.toList := by
  refine ⟨fun a b c separator => parse_append separator a b,
    fun t nonempty solid => parse_token nonempty solid,
    fun lead items front gaps apart => parse_laidOut front gaps apart, ?_⟩
  intro host stdin args r asked silent success
  have carried : simulate host stdin args = r.execute host stdin := by
    simp only [simulate, asked]
  rw [carried] at success ⊢
  exact parse_printed silent success

/-- An error behind an ideographic space, a numeral with a sign and zeros in front, one that is
too large, the extreme values with gaps around them, and a run that copies its tape. -/
theorem parse_by_tokens_extremes :
    let large := "9223372036854775808"
    let source := "READ 1\nWRITE 1\nREAD 1\nWRITE 1\nHALT"
    let tree := FileTree.ofPaths [(Text.encode "p.ram", Text.encode source)] []
    let host : Host := ⟨tree.read, fun _ => ""⟩
    let args := ["run", "--tape", "5,-6", "p.ram"].map Text.encode
    let r : RunRequest := { program := Text.encode "p.ram", tape := some (.inline "5,-6") }
    parse ("7,-9223372036854775808" ++ String.singleton (Char.ofNat 0x3000) ++ " 1x 4") =
        .error ⟨3, "1x"⟩ ∧
      parse "+007" = .ok [7] ∧ parse large = .error ⟨1, large⟩ ∧
      parse (laidOut ", " [(Int64.minValue, "\t,"), (Int64.maxValue, "")]) =
        .ok [Int64.minValue, Int64.maxValue] ∧
      (simulate host [] args).stdout = "5\n-6\n" ∧
      ∃ report, r.Succeeds host report ∧ parse "5\n-6\n" = .ok report.output.toList := by
  intro large source tree host args r
  obtain ⟨append, token, layout, printed⟩ := parse_by_tokens
  have solid {t : String} (all : t.toList.all (!isSeparator ·)) :
      ∀ c ∈ t.toList, isSeparator c = false := by simpa using all
  have gap {t : String} (all : t.toList.all isSeparator) : IsGap t := by
    simpa [IsGap] using all
  have stdout : (simulate host [] args).stdout = "5\n-6\n" := by decide +kernel
  refine ⟨?_, ?_, ?_, ?_, stdout, ?_⟩
  · have front : parse "7,-9223372036854775808" = .ok [7, Int64.minValue] := by decide +kernel
    have back : parse " 1x 4" = .error ⟨1, "1x"⟩ := by decide +kernel
    rw [append _ _ _ (by decide), front, back]
    rfl
  · refine ((token "+007" (by decide) (solid (by decide +kernel))).1 7).mpr ?_
    exact Text.integer?_eq_some_iff.mp (by decide +kernel)
  · refine (token large (by decide) (solid (by decide +kernel))).2 fun v denotes => ?_
    have refused : Text.integer? large.toList = none := by decide +kernel
    cases refused.symm.trans (Text.integer?_eq_some_iff.mpr denotes)
  · refine layout _ _ (gap (by decide +kernel)) ?_ ?_
    · simp only [List.forall_mem_cons]
      exact ⟨gap (by decide +kernel), gap (by decide +kernel), by simp⟩
    · simp
  · have resolved : (resolveSettings host r.settings r.overrides).1 = .ok {} := by decide +kernel
    have read := printed host [] args r (by decide +kernel)
      (RunRequest.silent_of_resolved resolved ⟨rfl, rfl⟩) (by decide +kernel)
    rwa [stdout] at read

end Tape

end RegisterMachine
