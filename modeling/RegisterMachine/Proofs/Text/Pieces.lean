import RegisterMachine.Text.Blank

/-!
# Pieces between separators

`Spaced p pieces cs` says how a text can be laid out around its pieces: with separators in
front, in between and behind, as many as one likes, but at least one between two pieces.
`pieces_eq_iff` shows that cutting a text into pieces undoes exactly this, so that the
pieces of a text are determined by its layouts and every text is a layout of its pieces.
`words_eq_iff` is the case of words between blanks.
-/

namespace RegisterMachine.Text

variable {p : Char → Bool}

/-- The text is a layout of the pieces.  A piece has no separator in it and ends at one, or
with the text. -/
inductive Spaced (p : Char → Bool) : List (List Char) → List Char → Prop
  | nil {gap : List Char} (separators : ∀ c ∈ gap, p c) : Spaced p [] gap
  | cons {gap piece rest : List Char} {pieces : List (List Char)}
    (separators : ∀ c ∈ gap, p c) (nonempty : piece ≠ []) (solid : ∀ c ∈ piece, p c = false)
    (apart : ∀ c ∈ rest.head?, p c) (more : Spaced p pieces rest) :
    Spaced p (piece :: pieces) (gap ++ piece ++ rest)

/-- A layout may begin with a piece. -/
theorem Spaced.piece {piece rest : List Char} {pieces : List (List Char)} (nonempty : piece ≠ [])
    (solid : ∀ c ∈ piece, p c = false) (apart : ∀ c ∈ rest.head?, p c)
    (more : Spaced p pieces rest) : Spaced p (piece :: pieces) (piece ++ rest) :=
  @Spaced.cons p [] piece rest pieces (by simp) nonempty solid apart more

/-! ## Cutting -/

theorem pieces_append_separator {sep : Char} (separator : p sep) (xs ys : List Char) :
    pieces p (xs ++ sep :: ys) = pieces p xs ++ pieces p ys := by
  rw [pieces, List.splitOnP_append_cons xs ys separator, List.filter_append]
  rfl

theorem pieces_append_of_separators {gap : List Char} (separators : ∀ c ∈ gap, p c)
    (rest : List Char) : pieces p (gap ++ rest) = pieces p rest := by
  induction gap with
  | nil => rfl
  | cons c gap ih =>
    obtain ⟨separator, separators⟩ := List.forall_mem_cons.mp separators
    exact (pieces_append_separator separator [] (gap ++ rest)).trans (ih separators)

theorem pieces_of_solid {piece : List Char} (nonempty : piece ≠ [])
    (solid : ∀ c ∈ piece, p c = false) : pieces p piece = [piece] := by
  rw [pieces, List.splitOnP_eq_singleton solid]
  simpa using nonempty

/-- A layout is cut into its pieces. -/
theorem Spaced.pieces_eq {ps : List (List Char)} {cs : List Char} (spaced : Spaced p ps cs) :
    pieces p cs = ps := by
  induction spaced with
  | @nil gap separators =>
    rw [← List.append_nil gap, pieces_append_of_separators separators]
    rfl
  | @cons gap piece rest _ separators nonempty solid apart _ ih =>
    rw [List.append_assoc, pieces_append_of_separators separators]
    cases rest with
    | nil =>
      rw [List.append_nil, pieces_of_solid nonempty solid, ← ih]
      rfl
    | cons sep rest =>
      have separator : p sep := apart sep rfl
      have behind := pieces_append_separator separator [] rest
      rw [pieces_append_separator separator, pieces_of_solid nonempty solid, ← ih]
      exact congrArg (piece :: ·) behind.symm

/-! ## Every text is a layout -/

theorem Spaced.cons_separator {c : Char} {ps : List (List Char)} {cs : List Char}
    (separator : p c) (spaced : Spaced p ps cs) : Spaced p ps (c :: cs) := by
  cases spaced with
  | nil separators => exact .nil (List.forall_mem_cons.mpr ⟨separator, separators⟩)
  | cons separators nonempty solid apart more =>
    exact .cons (List.forall_mem_cons.mpr ⟨separator, separators⟩) nonempty solid apart more

theorem Spaced.append_separators {gap : List Char} {ps : List (List Char)} {cs : List Char}
    (separators : ∀ c ∈ gap, p c) (spaced : Spaced p ps cs) : Spaced p ps (gap ++ cs) := by
  induction gap with
  | nil => exact spaced
  | cons c gap ih =>
    obtain ⟨separator, separators⟩ := List.forall_mem_cons.mp separators
    exact (ih separators).cons_separator separator

/-- A layout stays one when its characters change, but no separator and no character of a
piece becomes the other. -/
theorem Spaced.map {f : Char → Char} (keeps : ∀ c, p (f c) = p c) {ps : List (List Char)}
    {cs : List Char} (spaced : Spaced p ps cs) : Spaced p (ps.map (List.map f)) (cs.map f) := by
  induction spaced with
  | nil separators => exact .nil (by simpa [keeps] using separators)
  | @cons gap piece rest _ separators nonempty solid apart _ ih =>
    rw [List.map_cons, List.map_append, List.map_append]
    refine .cons (by simpa [keeps] using separators) (by simpa using nonempty)
      (by simpa [keeps] using solid) ?_ ih
    intro c head
    rw [List.head?_map] at head
    obtain ⟨d, first, rfl⟩ := Option.map_eq_some_iff.mp head
    rw [keeps]
    exact apart d first

/-- A character that is no separator is a piece of its own or the first of the next one. -/
theorem Spaced.cons_solid {c : Char} {ps : List (List Char)} {cs : List Char}
    (solid : p c = false) (spaced : Spaced p ps cs) : ∃ ps', Spaced p ps' (c :: cs) := by
  by_cases apart : ∀ x ∈ cs.head?, p x
  · exact ⟨[c] :: ps, .piece (by simp) (by simpa using solid) apart spaced⟩
  · cases spaced with
    | @nil gap separators =>
      exact absurd (fun x head => separators x (List.mem_of_mem_head? head)) apart
    | @cons gap piece rest pieces separators nonempty others after more =>
      cases gap with
      | nil =>
        have longer : ∀ x ∈ c :: piece, p x = false := List.forall_mem_cons.mpr ⟨solid, others⟩
        exact ⟨(c :: piece) :: pieces, .piece (by simp) longer after more⟩
      | cons x gap =>
        refine absurd (fun y head => ?_) apart
        cases head
        exact separators x List.mem_cons_self

theorem Spaced.exists (p : Char → Bool) (cs : List Char) : ∃ ps, Spaced p ps cs := by
  induction cs with
  | nil => exact ⟨[], .nil (by simp)⟩
  | cons c cs ih =>
    obtain ⟨ps, spaced⟩ := ih
    cases separator : p c with
    | true => exact ⟨ps, spaced.cons_separator separator⟩
    | false => exact spaced.cons_solid separator

/-- The pieces of a text are those of which it is a layout. -/
theorem pieces_eq_iff {ps : List (List Char)} {cs : List Char} :
    pieces p cs = ps ↔ Spaced p ps cs := by
  constructor
  · rintro rfl
    obtain ⟨ps, spaced⟩ := Spaced.exists p cs
    rwa [spaced.pieces_eq]
  · exact Spaced.pieces_eq

/-- The words of a text are those of which it is a layout with blanks. -/
theorem words_eq_iff {s : String} {ws : List String} :
    words s = ws ↔ Spaced isBlank (ws.map String.toList) s.toList := by
  rw [← pieces_eq_iff, words]
  constructor
  · rintro rfl
    simp
  · intro cut
    simp [cut]

/-- A blank at the end of a text belongs to no word. -/
theorem words_append_blank {c : Char} (blank : isBlank c) (cs : List Char) :
    words (String.ofList (cs ++ [c])) = words (String.ofList cs) := by
  rw [words, String.toList_ofList, pieces_append_separator blank]
  simp [words, pieces]

end RegisterMachine.Text
